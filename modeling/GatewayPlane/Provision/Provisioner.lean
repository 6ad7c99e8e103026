import GatewayPlane.Api.Validation
import GatewayPlane.Resource.Bundle
import GatewayPlane.Strategy.Choice

/-!
# Provisioning deployments

From a deployment and its API to the resources that serve it: its clusters, one route
configuration with one virtual host and a route for each operation, and a listener if it
wants one of its own.
-/
namespace GatewayPlane

/-- The route configuration of all deployments without a listener of their own. -/
def sharedRoutesName : String := "flowc_default_route"

def sharedListenerName : String := "flowc_default_listener"

/-- A strategy for each slot. -/
structure Provisioner where
  deployment : DeploymentStrategy
  matching : Matching
  balancing : Balancing := .plain .roundRobin
  retrying : Retrying := .none
  rateLimiting : RateLimiting := .off
  observing : Observing := .off

namespace Provisioner

/-- Only the first two slots have to be filled. -/
def ofStrategies (s : StrategySet) : Except Fault Provisioner := do
  let some deployment := s.deployment
    | throw (.configuration "strategy set has no deployment strategy")
  let some matching := s.matching
    | throw (.configuration "strategy set has no route-match strategy")
  return {
    deployment := deployment
    matching := matching
    balancing := s.balancing.getD (.plain .roundRobin)
    retrying := s.retrying.getD .none
    rateLimiting := s.rateLimiting.getD .off
    observing := s.observing.getD .off }

def name (p : Provisioner) : String :=
  let slots := [p.deployment.name, p.matching.name, p.balancing.name, p.retrying.name,
    p.rateLimiting.name, p.observing.name]
  "composite[" ++ "/".intercalate slots ++ "]"

/-- The strategies by their slots. -/
def toJson (p : Provisioner) : Json :=
  .object [("deployment", .string p.deployment.name), ("route_match", .string p.matching.name),
    ("load_balancing", .string p.balancing.name), ("retry", .string p.retrying.name),
    ("rate_limit", .string p.rateLimiting.name), ("observability", .string p.observing.name)]

def check (p : Provisioner) (d : Deployment) (api : Api) : Except Fault Unit := do
  p.deployment.check d
  api.check

def clusters (p : Provisioner) (d : Deployment) : Except Fault (List Cluster) := do
  let clusters ← p.deployment.clusters d
  if clusters.isEmpty then
    throw (.provision "cluster generation" s!"{p.deployment.name} strategy produced no clusters")
  return clusters.map p.balancing.apply

/-- The path under which the API is mounted: its own, or else that of the deployment. -/
def basePath (d : Deployment) (api : Api) : String :=
  if Text.isBlankText (api.info.basePath.getD "") then Path.normalize d.context
  else api.info.normalBasePath

/-- The time that a request may take. A stream without a limit of its own has none. -/
def timeout (d : Deployment) (o : Operation) : Option Span :=
  match o.timeout with
  | some limit => some limit
  | none => if o.interaction.isStreaming then some .zero else d.backend.timeout

def criteria (p : Provisioner) (base : String) (o : Operation) : RouteMatch :=
  p.matching.criteria (Path.join base o.pathPattern) o.method.toUpper

def forwarding (p : Provisioner) (d : Deployment) (o : Operation) : Forwarding where
  specifier := some (p.deployment.target d).specifier
  timeout := (timeout d o).map WireDuration.ofSpan
  hashPolicies := p.balancing.hashPolicies
  upgrades := if o.interaction.isWebsocket then [.websocket true] else []

/-- The route of an operation, before retries. -/
def route (p : Provisioner) (d : Deployment) (base : String) (o : Operation) : Route where
  name := s!"{d.name}-{d.version}-{o.id}"
  criteria := some (p.criteria base o)
  action := some (.forward (p.forwarding d o))

/-- The routes of operations, no two of which take the same requests. -/
def routes (p : Provisioner) (d : Deployment) (base : String) (seen : List RouteMatch) :
    List Operation → Except Fault (List Route)
  | [] => return []
  | o :: rest => do
    let key := (p.criteria base o).folded
    if seen.contains key then
      let path := Path.join base o.pathPattern
      let method := o.method.toUpper
      throw (.configuration
        s!"endpoint {o.id} duplicates the match of an earlier route for {method} {path}")
    return p.route d base o :: (← p.routes d base (key :: seen) rest)

def virtualHostName (d : Deployment) : String :=
  d.gateway.virtualHostName.getD s!"{d.name}-{d.version}-vhost"

def domains (d : Deployment) : List String :=
  if d.gateway.domains.isEmpty then ["*"] else d.gateway.domains

def routesName (d : Deployment) : String :=
  if d.gateway.dedicatedListener then s!"{d.name}-{d.version}-route" else sharedRoutesName

def routeConfiguration (p : Provisioner) (d : Deployment) (api : Api) :
    Except Fault RouteConfiguration := do
  let routes ← p.routes d (basePath d api) [] api.operations
  return ⟨routesName d, [⟨virtualHostName d, domains d, routes.map p.retrying.apply⟩]⟩

def listeners (d : Deployment) : List Listener :=
  if d.gateway.dedicatedListener then
    [.routed s!"{d.name}-{d.version}-listener" (routesName d) d.gateway.port]
  else []

def provision (p : Provisioner) (d : Deployment) (api : Api) : Except Fault Bundle := do
  p.check d api
  let clusters ← p.clusters d
  let routes ← p.routeConfiguration d api
  return { clusters := clusters, listeners := listeners d, routes := [routes] }

end Provisioner

end GatewayPlane
