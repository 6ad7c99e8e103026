import GatewayPlane.Resource.Cluster
import GatewayPlane.Resource.Listener

/-!
# Bundles

Resources of all kinds that belong together, in the order in which they were given.
-/
namespace GatewayPlane

structure Bundle where
  clusters : List Cluster := []
  endpoints : List LoadAssignment := []
  listeners : List Listener := []
  routes : List RouteConfiguration := []
  deriving DecidableEq, Repr, Inhabited

namespace Bundle

def size (b : Bundle) : Nat :=
  b.clusters.length + b.endpoints.length + b.listeners.length + b.routes.length

def isEmpty (b : Bundle) : Bool :=
  b.clusters.isEmpty && b.endpoints.isEmpty && b.listeners.isEmpty && b.routes.isEmpty

def clusterNames (b : Bundle) : List String := b.clusters.map (·.name)

/-- Everything in both, the second after the first. -/
def append (a b : Bundle) : Bundle where
  clusters := a.clusters ++ b.clusters
  endpoints := a.endpoints ++ b.endpoints
  listeners := a.listeners ++ b.listeners
  routes := a.routes ++ b.routes

instance : Append Bundle := ⟨append⟩

end Bundle

/-- A resource of any kind. -/
inductive Resource where
  | cluster (value : Cluster)
  | endpoint (value : LoadAssignment)
  | route (value : RouteConfiguration)
  | listener (value : Listener)
  deriving DecidableEq, Repr

namespace Resource

def kind : Resource → Kind
  | cluster _ => .cluster
  | endpoint _ => .endpoint
  | route _ => .route
  | listener _ => .listener

/-- The name by which the resource is subscribed to. -/
def name : Resource → String
  | cluster c => c.name
  | endpoint e => e.clusterName
  | route r => r.name
  | listener l => l.name

def fields : Resource → List Wire.Field
  | cluster c => c.fields
  | endpoint e => e.fields
  | route r => r.fields
  | listener l => l.fields

/-- The resource as a message of its type. -/
def encode (r : Resource) : TypedConfig := .pack r.kind.typeUrl r.fields

end Resource

/-- The resources of one kind, in order. -/
def Bundle.ofKind (b : Bundle) : Kind → List Resource
  | .cluster => b.clusters.map .cluster
  | .endpoint => b.endpoints.map .endpoint
  | .route => b.routes.map .route
  | .listener => b.listeners.map .listener

end GatewayPlane
