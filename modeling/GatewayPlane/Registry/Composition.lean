import GatewayPlane.Consistency
import GatewayPlane.Provision.Provisioner

/-!
# Composing a node's resources

The resources of a node are its base and the contributions of its deployments, put
together. Under one name the last contributor's resource counts, but the shared route
configuration collects the virtual hosts of all.
-/
namespace GatewayPlane

/-- What one deployment adds to a node. -/
structure Contribution where
  deploymentId : String
  apiName : String
  apiVersion : String
  resources : Bundle
  deriving DecidableEq, Repr, Inhabited

/-- A virtual host whose domains meet those of another without being the same. -/
structure Overlap where
  incoming : String
  existing : String
  routes : String
  deriving DecidableEq, Repr

def Overlap.fault (node : NodeId) (o : Overlap) : Fault :=
  .consistency node
    s!"virtual host {o.incoming} partially overlaps domains of {o.existing} in {o.routes}"

namespace VirtualHost

/-- Whether two virtual hosts answer for the same domains. -/
def sameDomains (a b : VirtualHost) : Bool :=
  Text.sortedDistinct a.domains == Text.sortedDistinct b.domains

def sharesDomain (a b : VirtualHost) : Bool := a.domains.any b.domains.contains

/-- Adds routes to the first virtual host with the domains of another. -/
def extendFirst (incoming : VirtualHost) : List VirtualHost → Option (List VirtualHost)
  | [] => none
  | v :: rest =>
    if v.sameDomains incoming then some ({ v with routes := v.routes ++ incoming.routes } :: rest)
    else (extendFirst incoming rest).map (v :: ·)

/-- Merges one virtual host into those of the configuration `routes`. -/
def mergeInto (routes : String) (existing : List VirtualHost) (incoming : VirtualHost) :
    Except Overlap (List VirtualHost) :=
  match extendFirst incoming existing with
  | some merged => .ok merged
  | none =>
    match existing.find? fun v => v.sharesDomain incoming with
    | some v => .error ⟨incoming.name, v.name, routes⟩
    | none => .ok (existing ++ [incoming])

end VirtualHost

/-- Resources by name, as far as they are put together. -/
structure Composition where
  clusters : NameMap Cluster := ∅
  endpoints : NameMap LoadAssignment := ∅
  listeners : NameMap Listener := ∅
  routes : NameMap RouteConfiguration := ∅

namespace Composition

def insertAll {α : Type} (name : α → String) (m : NameMap α) (l : List α) : NameMap α :=
  l.foldl (fun m a => m.insert (name a) a) m

def addRoutes (m : NameMap RouteConfiguration) (c : RouteConfiguration) :
    Except Overlap (NameMap RouteConfiguration) := do
  match m.get? c.name with
  | some existing =>
    if c.name = sharedRoutesName then
      let hosts ← c.virtualHosts.foldlM (VirtualHost.mergeInto c.name) existing.virtualHosts
      return m.insert c.name { existing with virtualHosts := hosts }
    else return m.insert c.name c
  | none => return m.insert c.name c

def add (m : Composition) (b : Bundle) : Except Overlap Composition := do
  return {
    clusters := insertAll Cluster.name m.clusters b.clusters
    endpoints := insertAll LoadAssignment.clusterName m.endpoints b.endpoints
    listeners := insertAll Listener.name m.listeners b.listeners
    routes := ← b.routes.foldlM addRoutes m.routes }

def toBundle (m : Composition) : Bundle where
  clusters := m.clusters.values
  endpoints := m.endpoints.values
  listeners := m.listeners.values
  routes := m.routes.values

end Composition

/-- The resources of a base and contributions, each kind in order of names. -/
def compose (base : Bundle) (contributions : List Contribution) : Except Overlap Bundle := do
  let parts := base :: contributions.map (·.resources)
  return (← parts.foldlM Composition.add {}).toBundle

/-- Resources that can be published: composed and consistent. -/
def composeChecked (node : NodeId) (base : Bundle) (contributions : List Contribution) :
    Except Fault Bundle := do
  let b ← (compose base contributions).mapError (Overlap.fault node)
  b.check node
  return b

end GatewayPlane
