import GatewayPlane.Provision.Provisioner

/-!
# Provisioning by phases

What is provisioned comes about in phases. The first ones make the clusters and the routes;
each of the later ones takes a bundle and changes some part of it.
-/
namespace GatewayPlane

/-- Requests are not limited: a listener is left as it is. -/
def RateLimiting.apply : RateLimiting → Listener → Listener
  | off, l => l

/-- Requests are not observed: a listener and the clusters are left as they are. -/
def Observing.apply : Observing → Listener → List Cluster → Listener × List Cluster
  | off, l, clusters => (l, clusters)

def Bundle.mapRoutes (f : Route → Route) (b : Bundle) : Bundle :=
  { b with
    routes := b.routes.map fun c =>
      { c with virtualHosts := c.virtualHosts.map fun v => { v with routes := v.routes.map f } } }

namespace Provisioner

/-- The first three phases: the clusters, how they are balanced, and the routes. -/
def drafted (p : Provisioner) (d : Deployment) (api : Api) : Except Fault Bundle := do
  p.check d api
  let clusters ← p.clusters d
  let routes ← p.routes d (basePath d api) [] api.operations
  return {
    clusters := clusters
    routes := [⟨routesName d, [⟨virtualHostName d, domains d, routes⟩]⟩] }

def retried (p : Provisioner) (b : Bundle) : Bundle := b.mapRoutes p.retrying.apply

/-- A listener of its own takes its routes from the configuration that was made. -/
def listening (d : Deployment) (b : Bundle) : Bundle :=
  { b with
    listeners :=
      if d.gateway.dedicatedListener then
        b.routes.map fun c => .routed s!"{d.name}-{d.version}-listener" c.name d.gateway.port
      else [] }

/-- Limits the first listener, if there is one. -/
def limited (p : Provisioner) (b : Bundle) : Bundle :=
  { b with listeners := b.listeners.modifyHead p.rateLimiting.apply }

/-- Observes the first listener and the clusters, if there is a listener. -/
def observed (p : Provisioner) (b : Bundle) : Bundle :=
  match b.listeners with
  | [] => b
  | l :: rest =>
    let (first, clusters) := p.observing.apply l b.clusters
    { b with clusters := clusters, listeners := first :: rest }

end Provisioner

end GatewayPlane
