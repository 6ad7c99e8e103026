import GatewayPlane.Deployment.Basic
import GatewayPlane.Fault
import GatewayPlane.Resource.Cluster
import GatewayPlane.Resource.Route

/-!
# Rollouts

How a deployment is spread over clusters: as one version, as a baseline and a canary that
share its requests, or as an active version with another on standby. All clusters of a
deployment reach its one backend.
-/
namespace GatewayPlane

/-- How a deployment is checked, which clusters it gets, and where its routes lead. -/
structure DeploymentStrategy where
  name : String
  check : Deployment → Except Fault Unit
  clusterNames : Deployment → List String
  clusters : Deployment → Except Fault (List Cluster)
  target : Deployment → RouteTarget

namespace Cluster

def connectTimeout5s : WireDuration := ⟨5, 0⟩

/-- Where the certificate authorities are kept that backend certificates are checked
against. -/
def systemCaBundle : String := "/etc/ssl/certs/ca-certificates.crt"

/-- A cluster of one host, looked up as connections need it. -/
def ofBackend (name host : String) (port : UInt16) (scheme : Scheme) : Cluster where
  name := name
  discovery := some .logicalDns
  connectTimeout := some connectTimeout5s
  lbPolicy := .roundRobin
  dnsFamily := .v4Only
  loadAssignment := some (.single name host port)
  tls := if scheme = .https then some ⟨host, systemCaBundle⟩ else none
  http2 := scheme = .http2

end Cluster

/-- Refuses a text with nothing but white space in it. -/
def requireText (field value : String) : Except Fault Unit :=
  if Text.isBlankText value then .error (.validation field "must not be empty") else .ok ()

/-- What every deployment must say about itself and its backend. -/
def Deployment.checkBackend (d : Deployment) : Except Fault Unit := do
  requireText "name" d.name
  requireText "version" d.version
  requireText "upstream.host" d.backend.host
  if d.backend.port = 0 then throw (.validation "upstream.port" "must not be zero")

inductive Rollout where
  | basic
  | canary (baseline canary : String) (weight : UInt32)
  | blueGreen (active standby : String) (autoPromote : Bool)
  deriving DecidableEq, Repr

namespace Rollout

def name : Rollout → String
  | basic => "basic"
  | canary .. => "canary"
  | blueGreen .. => "blue-green"

/-- Whether the rollout makes sense, whatever is deployed by it. -/
def checkSettings : Rollout → Except Fault Unit
  | basic => .ok ()
  | canary baselineVersion canaryVersion weight => do
    if weight > 100 then
      throw (.validation "deployment.canary.canary_weight"
        s!"must be within [0, 100], got {weight.toNat}")
    requireText "deployment.canary.baseline_version" baselineVersion
    requireText "deployment.canary.canary_version" canaryVersion
    if baselineVersion = canaryVersion then
      throw (.validation "deployment.canary.canary_version" "must differ from baseline_version")
  | blueGreen active standby _ => do
    requireText "deployment.blue_green.active_version" active
    requireText "deployment.blue_green.standby_version" standby

def check (r : Rollout) (d : Deployment) : Except Fault Unit := do
  r.checkSettings
  d.checkBackend

def clusterNames (r : Rollout) (d : Deployment) : List String :=
  match r with
  | basic => [s!"{d.name}-{d.version}-cluster"]
  | canary baselineVersion canaryVersion _ =>
    [s!"{d.name}-{baselineVersion}-cluster", s!"{d.name}-{canaryVersion}-cluster"]
  | blueGreen active standby _ =>
    [s!"{d.name}-{active}-active-cluster", s!"{d.name}-{standby}-standby-cluster"]

def clusters (r : Rollout) (d : Deployment) : Except Fault (List Cluster) := do
  r.check d
  return (r.clusterNames d).map fun name =>
    .ofBackend name d.backend.host d.backend.port d.backend.scheme

/-- Only a canary with a share of its own, and not all of it, splits the requests. -/
def target (r : Rollout) (d : Deployment) : RouteTarget :=
  match r, r.clusterNames d with
  | canary _ _ weight, [baselineName, canaryName] =>
    if weight = 0 then .cluster baselineName
    else if weight = 100 then .cluster canaryName
    else .weighted [(baselineName, 100 - weight), (canaryName, weight)]
  | _, names => .cluster (names.headD "")

def strategy (r : Rollout) : DeploymentStrategy where
  name := r.name
  check := r.check
  clusterNames := r.clusterNames
  clusters := r.clusters
  target := r.target

end Rollout

end GatewayPlane
