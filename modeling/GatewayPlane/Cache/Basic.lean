import GatewayPlane.Cache.Stats
import GatewayPlane.Cache.Watches
import GatewayPlane.Fault

/-!
# The snapshot cache

The current snapshot of each node, and the watches that wait for the next. The version of
a node's snapshot only ever grows while it is held.
-/
namespace GatewayPlane

structure Cache where
  snapshots : NameMap Snapshot := ∅
  watches : Watches := {}
  stats : CacheStats := {}
  deriving Inhabited

namespace Cache

def recordRejection (c : Cache) : Cache :=
  { c with stats := { c.stats with rejected := c.stats.rejected + 1 } }

/-- The snapshot of a node, found without being counted. -/
def held? (c : Cache) (node : NodeId) : Option Snapshot := c.snapshots.get? node

def get (c : Cache) (node : NodeId) : Option Snapshot × Cache :=
  match c.held? node with
  | some s => (some s, { c with stats := { c.stats with hits := c.stats.hits + 1 } })
  | none => (none, { c with stats := { c.stats with misses := c.stats.misses + 1 } })

/-- Whether a snapshot may take the place of what is held. -/
def accepts (held : Option Snapshot) (s : Snapshot) : Bool :=
  match held with
  | none => true
  | some current => current.version < s.version

def outdated (node : NodeId) (proposed current : Version) : Fault :=
  .cache s!"snapshot version {proposed.text} for node {node} is not newer than {current.text}" none

/-- Puts a snapshot that was accepted in its place. -/
def store (c : Cache) (node : NodeId) (s : Snapshot) : Cache :=
  { c with
    snapshots := c.snapshots.insert node s
    stats := { c.stats with set := c.stats.set + 1 } }

/-- Tells the watches of a node of a snapshot that was set. -/
def announce (c : Cache) (node : NodeId) (s : Snapshot) : Cache :=
  let (advanced, watches) := c.watches.notify node s
  { c with
    watches := watches
    stats := { c.stats with notified := c.stats.notified + advanced.toNat } }

def set (c : Cache) (node : NodeId) (s : Snapshot) : Except Fault Snapshot × Cache :=
  if accepts (c.held? node) s then (.ok s, (c.store node s).announce node s)
  else
    let current := ((c.held? node).map (·.version)).getD .initial
    (.error (outdated node s.version current), c.recordRejection)

def clear (c : Cache) (node : NodeId) : Bool × Cache :=
  if c.snapshots.contains node then
    (true, { c with
      snapshots := c.snapshots.erase node
      stats := { c.stats with cleared := c.stats.cleared + 1 } })
  else (false, c)

/-- Forgets a node and closes its watches. -/
def removeNode (c : Cache) (node : NodeId) : Bool × Cache :=
  let (had, c) := c.clear node
  (had, { c with watches := c.watches.close node })

/-- The first half of a new watch. -/
def subscribe (c : Cache) (node : NodeId) : Nat × Cache :=
  let (id, watches) := c.watches.subscribe node
  (id, { c with watches := watches, stats := { c.stats with watches := c.stats.watches + 1 } })

/-- The second half of a new watch: what is held now may be news to it. -/
def refresh (c : Cache) (node : NodeId) : Cache :=
  match c.held? node with
  | none => c
  | some s => { c with watches := (c.watches.notify node s).2 }

/-- Watches a node, beginning with what is held of it now. -/
def watch (c : Cache) (node : NodeId) : Nat × Cache :=
  let (id, c) := c.subscribe node
  (id, c.refresh node)

def nodes (c : Cache) : List NodeId := c.snapshots.keys

def has (c : Cache) (node : NodeId) : Bool := c.snapshots.contains node

def size (c : Cache) : Nat := c.snapshots.size

def resetStats (c : Cache) : Cache := { c with stats := {} }

end Cache

end GatewayPlane
