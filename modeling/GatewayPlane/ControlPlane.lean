import GatewayPlane.Registry.Basic

/-!
# The control plane

Takes deployments of APIs to the gateways that they name: each is provisioned by the
strategies that its settings and those of the gateway ask for, and published.
-/
namespace GatewayPlane

structure ControlPlane where
  gateway : StrategySettings := {}
  registry : Registry := {}
  deriving Inhabited

namespace ControlPlane

def version : String := "0.1.0"

/-- The program, its version, and the oldest release of its tools that builds it. -/
def versionText : String := s!"flowc {version} (MSRV 1.75)"

/-- The node that a deployment is for. -/
def targetNode (d : Deployment) : Except Fault NodeId :=
  let node := Text.trim d.gateway.nodeId
  if node.isEmpty then
    .error (.validation "gateway.node_id" s!"deployment {d.id} names no target node")
  else .ok node

def provisioner (gateway : StrategySettings) (d : Deployment) : Except Fault Provisioner := do
  let settings := ResolvedSettings.resolve gateway (d.info.strategy.getD {})
  Provisioner.ofStrategies (← StrategySet.ofSettings settings d)

def provision (c : ControlPlane) (d : Deployment) (api : Api) : Except Fault Bundle := do
  let _ ← targetNode d
  (← provisioner c.gateway d).provision d api

/-- A deployment that is provisioned, and the node it is for. -/
def contribution (c : ControlPlane) (d : Deployment) (api : Api) :
    Except Fault (NodeId × Contribution) := do
  let node ← targetNode d
  let resources ← c.provision d api
  return (node, ⟨d.id, d.name, d.version, resources⟩)

/-- Works on the registry alone. -/
def onRegistry {α : Type} (c : ControlPlane) (work : Registry → α × Registry) :
    α × ControlPlane :=
  let (a, registry) := work c.registry
  (a, { c with registry := registry })

def deploy (c : ControlPlane) (d : Deployment) (api : Api) :
    Except Fault Version × ControlPlane :=
  match c.contribution d api with
  | .error f => (.error f, c)
  | .ok (node, contribution) => c.onRegistry fun r => r.deploy node contribution

def initializeNode (c : ControlPlane) (node : NodeId) (port : UInt16) :
    Except Fault Version × ControlPlane :=
  c.onRegistry fun r => r.initializeNode node port

def undeploy (c : ControlPlane) (node : NodeId) (deploymentId : String) :
    Except Fault (Option Version) × ControlPlane :=
  c.onRegistry fun r => r.undeploy node deploymentId

def removeNode (c : ControlPlane) (node : NodeId) : Except Fault Unit × ControlPlane :=
  c.onRegistry fun r => r.removeNode node

end ControlPlane

end GatewayPlane
