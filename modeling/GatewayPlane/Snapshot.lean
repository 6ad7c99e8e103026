import GatewayPlane.NameMap
import GatewayPlane.Resource.Bundle
import GatewayPlane.Version

/-!
# Snapshots

All that one gateway node is to know at one version: for each kind the resources by name.
Of several resources with one name the last counts.
-/
namespace GatewayPlane

/-- A kind that was never mentioned is told apart from one without resources. -/
structure Snapshot where
  version : Version
  clusters : Option (NameMap Cluster) := none
  endpoints : Option (NameMap LoadAssignment) := none
  routes : Option (NameMap RouteConfiguration) := none
  listeners : Option (NameMap Listener) := none
  deriving Inhabited

namespace Snapshot

/-- A snapshot that mentions no kind. -/
def blank (v : Version := .initial) : Snapshot := { version := v }

/-- Mentions a kind. -/
def mention (s : Snapshot) : Kind → Snapshot
  | .cluster => { s with clusters := some (s.clusters.getD ∅) }
  | .endpoint => { s with endpoints := some (s.endpoints.getD ∅) }
  | .route => { s with routes := some (s.routes.getD ∅) }
  | .listener => { s with listeners := some (s.listeners.getD ∅) }

def insert (s : Snapshot) : Resource → Snapshot
  | .cluster c => { s with clusters := some ((s.clusters.getD ∅).insert c.name c) }
  | .endpoint e => { s with endpoints := some ((s.endpoints.getD ∅).insert e.clusterName e) }
  | .route r => { s with routes := some ((s.routes.getD ∅).insert r.name r) }
  | .listener l => { s with listeners := some ((s.listeners.getD ∅).insert l.name l) }

def ofBundle (v : Version) (b : Bundle) : Snapshot where
  version := v
  clusters := some (.ofNamed Cluster.name b.clusters)
  endpoints := some (.ofNamed LoadAssignment.clusterName b.endpoints)
  routes := some (.ofNamed RouteConfiguration.name b.routes)
  listeners := some (.ofNamed Listener.name b.listeners)

/-- The resources of a kind by name, if the kind is mentioned. -/
def ofKind? (s : Snapshot) : Kind → Option (NameMap Resource)
  | .cluster => s.clusters.map (·.map .cluster)
  | .endpoint => s.endpoints.map (·.map .endpoint)
  | .route => s.routes.map (·.map .route)
  | .listener => s.listeners.map (·.map .listener)

def ofKind (s : Snapshot) (k : Kind) : NameMap Resource := (s.ofKind? k).getD ∅

def kinds (s : Snapshot) : List Kind := Kind.pushOrder.filter fun k => (s.ofKind? k).isSome

def contains (s : Snapshot) (k : Kind) (name : String) : Bool := (s.ofKind k).contains name

/-- The resources of a kind that have one of these names, in order of their names; without
names, all of them. -/
def select (s : Snapshot) (k : Kind) (names : List String) : List Resource :=
  ((s.ofKind k).entries.filter fun e => names.isEmpty || names.contains e.1).map (·.2)

def encoded (s : Snapshot) (k : Kind) (names : List String) : List TypedConfig :=
  (s.select k names).map Resource.encode

def size (s : Snapshot) : Nat := Kind.pushOrder.foldl (fun n k => n + (s.ofKind k).size) 0

def isEmpty (s : Snapshot) : Bool := Kind.pushOrder.all fun k => (s.ofKind k).isEmpty

def withVersion (s : Snapshot) (v : Version) : Snapshot := { s with version := v }

/-- Whether two snapshots look the same to a gateway, whatever their versions. -/
def sameResources (a b : Snapshot) : Bool :=
  Kind.pushOrder.all fun k => a.encoded k [] == b.encoded k []

/-- The resources of a snapshot, kind by kind in order of their names. -/
def toBundle (s : Snapshot) : Bundle where
  clusters := (s.clusters.getD ∅).values
  endpoints := (s.endpoints.getD ∅).values
  listeners := (s.listeners.getD ∅).values
  routes := (s.routes.getD ∅).values

end Snapshot

end GatewayPlane
