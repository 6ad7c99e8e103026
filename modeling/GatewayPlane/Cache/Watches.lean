import GatewayPlane.NodeId
import GatewayPlane.Snapshot

/-!
# Watches

Who waits for the snapshots of a node. A node that was ever watched keeps the newest
snapshot that it was notified of; its watches share it, and each knows whether it has seen
it. Closing the node leaves its watches with what they had.
-/
namespace GatewayPlane

structure Watch where
  id : Nat
  node : NodeId
  value : Option Snapshot
  unseen : Bool
  isOpen : Bool
  deriving Inhabited

/-- What a watch has for those who ask for the next snapshot. -/
inductive Poll where
  | snapshot (s : Snapshot)
  | pending
  | closed

structure Watches where
  slots : NameMap (Option Snapshot) := ∅
  watches : List Watch := []
  nextId : Nat := 0
  deriving Inhabited

namespace Watch

/-- Takes the value of the watch as seen. -/
def see (w : Watch) : Watch := { w with unseen := false }

/-- A value that was not seen comes first, then the news that there will be no other. -/
def poll (w : Watch) : Poll :=
  match w.unseen, w.value with
  | true, some s => .snapshot s
  | _, _ => if w.isOpen then .pending else .closed

/-- Hands a snapshot to a watch that is open on a node. -/
def deliver (node : NodeId) (s : Snapshot) (w : Watch) : Watch :=
  if w.isOpen && w.node == node then { w with value := some s, unseen := true } else w

def close (node : NodeId) (w : Watch) : Watch :=
  if w.node == node then { w with isOpen := false } else w

end Watch

namespace Watches

/-- Watches a node from now on; a snapshot that the node was notified of is news to the
watch. -/
def subscribe (ws : Watches) (node : NodeId) : Nat × Watches :=
  let value := ((ws.slots.get? node).getD none)
  (ws.nextId, {
    slots := ws.slots.insert node value
    watches := ws.watches ++ [⟨ws.nextId, node, value, value.isSome, true⟩]
    nextId := ws.nextId + 1 })

/-- Whether a snapshot is news after what a slot holds. -/
def isNews (slot : Option Snapshot) (s : Snapshot) : Bool :=
  match slot with
  | none => true
  | some held => held.version < s.version

/-- Tells the watches of a node of a snapshot, if it is newer than the last one. -/
def notify (ws : Watches) (node : NodeId) (s : Snapshot) : Bool × Watches :=
  match ws.slots.get? node with
  | none => (false, ws)
  | some slot =>
    if isNews slot s then
      (true, { ws with
        slots := ws.slots.insert node (some s)
        watches := ws.watches.map (Watch.deliver node s) })
    else (false, ws)

def close (ws : Watches) (node : NodeId) : Watches :=
  { ws with slots := ws.slots.erase node, watches := ws.watches.map (Watch.close node) }

def get? (ws : Watches) (id : Nat) : Option Watch := ws.watches.find? (·.id == id)

def see (ws : Watches) (id : Nat) : Watches :=
  { ws with watches := ws.watches.map fun w => if w.id == id then w.see else w }

/-- The newest snapshot of a watch, which has then seen it. -/
def latest (ws : Watches) (id : Nat) : Option Snapshot × Watches :=
  ((ws.get? id).bind (·.value), ws.see id)

/-- The next snapshot of a watch, which has then seen it. -/
def poll (ws : Watches) (id : Nat) : Poll × Watches :=
  match ws.get? id with
  | none => (.closed, ws)
  | some w => (w.poll, ws.see id)

def drop (ws : Watches) (id : Nat) : Watches :=
  { ws with watches := ws.watches.filter (·.id != id) }

def count (ws : Watches) (node : NodeId) : Nat :=
  ws.watches.countP fun w => w.isOpen && w.node == node

def totalCount (ws : Watches) : Nat := ws.watches.countP (·.isOpen)

end Watches

end GatewayPlane
