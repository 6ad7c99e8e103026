import GatewayPlane.Cache.Basic
import GatewayPlane.NameMap.Lemmas

/-!
# What a cache holds

The snapshots that a cache holds after each of its operations, how many it has set, and what
becomes of its watches.
-/
namespace GatewayPlane.Cache

@[simp] theorem get_fst (c : Cache) (node : NodeId) : (c.get node).1 = c.held? node := by
  unfold get
  split <;> simp_all

@[simp] theorem get_snapshots (c : Cache) (node : NodeId) :
    (c.get node).2.snapshots = c.snapshots := by
  unfold get
  split <;> rfl

@[simp] theorem get_stats_set (c : Cache) (node : NodeId) :
    (c.get node).2.stats.set = c.stats.set := by
  unfold get
  split <;> rfl

@[simp] theorem get_watches (c : Cache) (node : NodeId) :
    (c.get node).2.watches = c.watches := by
  unfold get
  split <;> rfl

theorem set_of_accepts {c : Cache} {node : NodeId} {s : Snapshot}
    (h : accepts (c.held? node) s = true) :
    c.set node s = (.ok s, (c.store node s).announce node s) := if_pos h

/-- A snapshot that is refused changes nothing that is held. -/
theorem set_of_not_accepts {c : Cache} {node : NodeId} {s : Snapshot}
    (h : ¬accepts (c.held? node) s = true) :
    ∃ f, c.set node s = (.error f, c.recordRejection) := ⟨_, if_neg h⟩

/-- A snapshot that is accepted is held from then on. -/
@[simp] theorem announce_store_snapshots (c : Cache) (node : NodeId) (s : Snapshot) :
    ((c.store node s).announce node s).snapshots = c.snapshots.insert node s := rfl

@[simp] theorem announce_store_stats_set (c : Cache) (node : NodeId) (s : Snapshot) :
    ((c.store node s).announce node s).stats.set = c.stats.set + 1 := rfl

@[simp] theorem announce_store_watches (c : Cache) (node : NodeId) (s : Snapshot) :
    ((c.store node s).announce node s).watches = (c.watches.notify node s).2 := rfl

@[simp] theorem clear_snapshots (c : Cache) (node : NodeId) :
    (c.clear node).2.snapshots = c.snapshots.erase node := by
  unfold clear
  split
  · rfl
  · next h =>
    refine (NameMap.erase_eq_self _ ?_).symm
    simpa [NameMap.contains] using h

@[simp] theorem clear_stats_set (c : Cache) (node : NodeId) :
    (c.clear node).2.stats.set = c.stats.set := by
  unfold clear
  split <;> rfl

@[simp] theorem clear_watches (c : Cache) (node : NodeId) :
    (c.clear node).2.watches = c.watches := by
  unfold clear
  split <;> rfl

@[simp] theorem removeNode_snapshots (c : Cache) (node : NodeId) :
    (c.removeNode node).2.snapshots = c.snapshots.erase node :=
  clear_snapshots c node

@[simp] theorem removeNode_stats_set (c : Cache) (node : NodeId) :
    (c.removeNode node).2.stats.set = c.stats.set :=
  clear_stats_set c node

@[simp] theorem removeNode_watches (c : Cache) (node : NodeId) :
    (c.removeNode node).2.watches = c.watches.close node :=
  congrArg (fun ws => ws.close node) (clear_watches c node)

end GatewayPlane.Cache
