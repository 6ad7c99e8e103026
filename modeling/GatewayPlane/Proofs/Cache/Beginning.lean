import GatewayPlane.Proofs.Cache.Holding
import GatewayPlane.Proofs.Cache.Watching
import Mathlib.Data.List.Induction

/-!
# What a new watch begins with

The slot of a node keeps the newest snapshot that there was to be seen since the node is
watched, and gives it to every new watch. Only removing the node empties the slot: a
snapshot that was cleared in the meantime is still what a new watch begins with, unless
something newer is held.
-/
namespace GatewayPlane

/-! ## The newest of some snapshots -/

namespace Snapshot
variable {l : List Snapshot} {s : Snapshot}

/-- The snapshot with the highest version; of several, the first. -/
def newest (l : List Snapshot) : Option Snapshot :=
  l.foldl (fun best s => if Watches.isNews best s then some s else best) none

theorem newest_append_singleton (l : List Snapshot) (s : Snapshot) :
    newest (l ++ [s]) = if Watches.isNews (newest l) s then some s else newest l := by
  rw [newest, List.foldl_append, ← newest, List.foldl_cons, List.foldl_nil]

/-- What comes before the newest snapshot is older, and what comes after it no newer. -/
def IsNewest (s : Snapshot) (l : List Snapshot) : Prop :=
  ∃ before after, l = before ++ s :: after ∧ (∀ x ∈ before, x.version < s.version) ∧
    ∀ x ∈ after, x.version ≤ s.version

theorem IsNewest.le (h : s.IsNewest l) : ∀ x ∈ l, x.version ≤ s.version := by
  obtain ⟨before, after, rfl, hbefore, hafter⟩ := h
  intro x hx
  rcases List.mem_append.1 hx with hx | hx
  · exact Version.le_of_lt (hbefore x hx)
  · rcases List.mem_cons.1 hx with rfl | hx
    · exact Version.le_refl _
    · exact hafter x hx

theorem isNews_some {x : Snapshot} : Watches.isNews (some x) s = true ↔ x.version < s.version :=
  decide_eq_true_iff

theorem newest_eq_none_iff : newest l = none ↔ l = [] := by
  induction l using List.reverseRecOn with
  | nil => simp [newest]
  | append_singleton l x ih =>
    rw [newest_append_singleton]
    cases hl : newest l with
    | none => simp [Watches.isNews]
    | some y => split <;> simp

theorem newest_of_forall_lt {l : List Snapshot} (h : ∀ x ∈ l, x.version < s.version) :
    newest (l ++ [s]) = some s := by
  rw [newest_append_singleton, if_pos]
  induction l using List.reverseRecOn with
  | nil => rfl
  | append_singleton l x ih =>
    rw [List.forall_mem_append, List.forall_mem_singleton] at h
    rw [newest_append_singleton]
    split
    · exact isNews_some.2 h.2
    · exact ih h.1

theorem newest_append_of_forall_le {after : List Snapshot} (h : newest l = some s)
    (hafter : ∀ x ∈ after, x.version ≤ s.version) : newest (l ++ after) = some s := by
  induction after using List.reverseRecOn with
  | nil => rwa [List.append_nil]
  | append_singleton after x ih =>
    rw [List.forall_mem_append, List.forall_mem_singleton] at hafter
    rw [← List.append_assoc, newest_append_singleton, ih hafter.1, if_neg]
    rw [isNews_some, Version.lt_iff, Nat.not_lt, ← Version.le_iff]
    exact hafter.2

theorem newest_eq_some_iff : newest l = some s ↔ s.IsNewest l := by
  constructor
  · intro h
    induction l using List.reverseRecOn generalizing s with
    | nil => cases h
    | append_singleton l x ih =>
      rw [newest_append_singleton] at h
      split at h
      · next hnews =>
        cases h
        refine ⟨l, [], rfl, fun y hy => ?_, nofun⟩
        cases hl : newest l with
        | none =>
          rw [newest_eq_none_iff.1 hl] at hy
          cases hy
        | some z =>
          rw [hl, isNews_some] at hnews
          exact Version.lt_of_le_of_lt ((ih hl).le y hy) hnews
      · next hold =>
        obtain ⟨before, after, rfl, hbefore, hafter⟩ := ih h
        refine ⟨before, after ++ [x], by simp, hbefore, ?_⟩
        rw [List.forall_mem_append, List.forall_mem_singleton]
        rw [h, isNews_some, Version.lt_iff, Nat.not_lt, ← Version.le_iff] at hold
        exact ⟨hafter, hold⟩
  · rintro ⟨before, after, rfl, hbefore, hafter⟩
    rw [List.append_cons]
    exact newest_append_of_forall_le (newest_of_forall_lt hbefore) hafter

end Snapshot

namespace Watches

/-- What a notification leaves in the slots. -/
theorem slots_notify (ws : Watches) (node other : NodeId) (s : Snapshot) :
    (ws.notify node s).2.slots.get? other =
      if node = other then
        (ws.slots.get? node).map fun slot => if isNews slot s then some s else slot
      else ws.slots.get? other := by
  unfold notify
  by_cases heq : node = other
  · subst heq
    rw [if_pos rfl]
    cases hslot : ws.slots.get? node with
    | none => exact hslot
    | some slot =>
      rw [Option.map_some]
      dsimp only
      split
      · exact NameMap.get?_insert_self _ _ _
      · exact hslot
  · rw [if_neg heq]
    cases ws.slots.get? node with
    | none => rfl
    | some slot =>
      dsimp only
      split
      · exact NameMap.get?_insert_of_ne _ _ heq
      · rfl

theorem get?_notify (ws : Watches) (node : NodeId) (s : Snapshot) (id : Nat) :
    (ws.notify node s).2.get? id = ws.get? id ∨
      (ws.notify node s).2.get? id = (ws.get? id).map (Watch.deliver node s) := by
  rcases ws.notify_cases node s with hsame | ⟨_, -, -, hnotify⟩
  · exact .inl (congrArg (·.get? id) hsame)
  · rw [hnotify]
    refine .inr (find?_map_watches ws (fun w => ?_) id)
    unfold Watch.deliver
    split <;> rfl

theorem slots_subscribe (ws : Watches) (node other : NodeId) :
    (ws.subscribe node).2.slots.get? other =
      if node = other then some ((ws.slots.get? node).getD none) else ws.slots.get? other :=
  NameMap.get?_insert _ _ _ _

end Watches

namespace Cache

/-! ## Runs -/

/-- What is done to a cache by those who fill, read and watch it. -/
inductive Action where
  | set (node : NodeId) (s : Snapshot)
  | get (node : NodeId)
  | clear (node : NodeId)
  | remove (node : NodeId)
  | watch (node : NodeId)
  | latest (id : Nat)
  | poll (id : Nat)
  | drop (id : Nat)

def Action.apply : Action → Cache → Cache
  | set node s, c => (c.set node s).2
  | get node, c => (c.get node).2
  | clear node, c => (c.clear node).2
  | remove node, c => (c.removeNode node).2
  | watch node, c => (c.watch node).2
  | latest id, c => { c with watches := (c.watches.latest id).2 }
  | poll id, c => { c with watches := (c.watches.poll id).2 }
  | drop id, c => { c with watches := c.watches.drop id }

/-- The cache after some actions. -/
def run (c : Cache) (actions : List Action) : Cache := actions.foldl (fun c a => a.apply c) c

variable {c c' : Cache} {node : NodeId} {s : Snapshot} {published : List (NodeId × Snapshot)}

/-- What is held, and what the watches have, was published. -/
structure Tracks (published : List (NodeId × Snapshot)) (c : Cache) : Prop where
  watches : c.watches.Sound published
  held : ∀ node s, c.held? node = some s → (node, s) ∈ published

theorem Tracks.empty : Tracks [] {} := ⟨.empty, nofun⟩

theorem Tracks.set (h : c.Tracks published) (node : NodeId) (s : Snapshot) :
    (c.set node s).2.Tracks ((node, s) :: published) := by
  have hmore : published ⊆ (node, s) :: published := List.subset_cons_self _ _
  by_cases haccepts : accepts (c.held? node) s = true
  · rw [set_of_accepts haccepts]
    refine ⟨((h.watches.mono hmore).notify List.mem_cons_self).1, fun other x hx => ?_⟩
    rw [held?, announce_store_snapshots, NameMap.get?_insert] at hx
    split at hx
    · next heq =>
      cases hx
      exact heq ▸ List.mem_cons_self
    · exact hmore (h.held other x hx)
  · obtain ⟨f, hset⟩ := set_of_not_accepts haccepts
    rw [hset]
    exact ⟨h.watches.mono hmore, fun other x hx => hmore (h.held other x hx)⟩

theorem held?_of_erase (hsnapshots : c'.snapshots = c.snapshots.erase node) (other : NodeId) :
    c'.held? other = if node = other then none else c.held? other := by
  rw [held?, hsnapshots, NameMap.get?_erase, held?]

theorem Tracks.apply (h : c.Tracks published) (a : Action) :
    ∃ published', published ⊆ published' ∧ (a.apply c).Tracks published' := by
  have hsame : published ⊆ published := List.Subset.refl _
  have herase {c' : Cache} {node : NodeId} (hsnapshots : c'.snapshots = c.snapshots.erase node)
      (other : NodeId) (s : Snapshot) (hs : c'.held? other = some s) : (other, s) ∈ published := by
    rw [held?_of_erase hsnapshots] at hs
    split at hs
    · cases hs
    · exact h.held other s hs
  cases a with
  | set node s => exact ⟨_, List.subset_cons_self _ _, h.set node s⟩
  | get node =>
    refine ⟨published, hsame, ?_, fun other s hs => h.held other s ?_⟩
    · exact (get_watches c node).symm ▸ h.watches
    · rwa [Action.apply, held?, get_snapshots] at hs
  | clear node =>
    exact ⟨published, hsame, (clear_watches c node).symm ▸ h.watches,
      herase (clear_snapshots c node)⟩
  | remove node =>
    refine ⟨published, hsame, ?_, herase (removeNode_snapshots c node)⟩
    exact (removeNode_watches c node).symm ▸ (h.watches.close node).1
  | watch node =>
    refine ⟨published, hsame, (watch_sound h.watches (h.held node)).1,
      fun other s hs => h.held other s ?_⟩
    rwa [Action.apply, held?, watch_snapshots] at hs
  | latest id => exact ⟨published, hsame, h.watches.see id, h.held⟩
  | poll id =>
    refine ⟨published, hsame, ?_, h.held⟩
    change (c.watches.poll id).2.Sound published
    unfold Watches.poll
    split
    · exact h.watches
    · exact h.watches.see id
  | drop id => exact ⟨published, hsame, h.watches.drop id, h.held⟩

theorem run_tracks (h : c.Tracks published) (actions : List Action) :
    ∃ published', (run c actions).Tracks published' := by
  induction actions generalizing c published with
  | nil => exact ⟨published, h⟩
  | cons a rest ih =>
    obtain ⟨published', -, h'⟩ := h.apply a
    exact ih h'

/-! ## What there was to be seen -/

/-- A node is attended from its first watch on, until it is removed. -/
def Action.attends (node : NodeId) : Action → Option (List Snapshot) → Option (List Snapshot)
  | watch n, shown => if n = node then some (shown.getD []) else shown
  | remove n, shown => if n = node then none else shown
  | _, shown => shown

/-- What was held of a node after each action since it is attended. -/
def shown (node : NodeId) : Cache → Option (List Snapshot) → List Action → Option (List Snapshot)
  | _, shown, [] => shown
  | c, l, a :: rest =>
    let c' := a.apply c
    shown node c' ((a.attends node l).map (· ++ (c'.held? node).toList)) rest

/-- The slot of a node keeps the newest of what there was to be seen, and nothing newer is
held. -/
structure Remembers (node : NodeId) (shown : Option (List Snapshot)) (c : Cache) : Prop where
  slot : c.watches.slots.get? node = shown.map Snapshot.newest
  held : ∀ l, shown = some l → ∀ s, c.held? node = some s →
    Watches.isNews (Snapshot.newest l) s = false

theorem Remembers.empty (node : NodeId) : Remembers node none {} := ⟨rfl, nofun⟩

variable {l : Option (List Snapshot)}

/-- What is still held was seen before. -/
theorem newest_append_held {seen : List Snapshot}
    (h : ∀ s, c.held? node = some s → Watches.isNews (Snapshot.newest seen) s = false) :
    Snapshot.newest (seen ++ (c.held? node).toList) = Snapshot.newest seen := by
  cases hheld : c.held? node with
  | none => rw [Option.toList_none, List.append_nil]
  | some s => rw [Option.toList_some, Snapshot.newest_append_singleton, h s hheld, if_neg nofun]

theorem isNews_newest_append_singleton (seen : List Snapshot) (s : Snapshot) :
    Watches.isNews (Snapshot.newest (seen ++ [s])) s = false := by
  rw [Snapshot.newest_append_singleton]
  split
  · exact decide_eq_false (Version.lt_irrefl _)
  · next hold => exact eq_false_of_ne_true hold

/-- Nothing happens to a node of which no other snapshot is held and whose slot is the same. -/
theorem Remembers.still (h : Remembers node l c)
    (hslot : c'.watches.slots.get? node = c.watches.slots.get? node)
    (hheld : ∀ s, c'.held? node = some s → c.held? node = some s) :
    Remembers node (l.map (· ++ (c'.held? node).toList)) c' := by
  cases l with
  | none => exact ⟨hslot.trans h.slot, nofun⟩
  | some seen =>
    have hold (s : Snapshot) (hs : c'.held? node = some s) :
        Watches.isNews (Snapshot.newest seen) s = false := h.held seen rfl s (hheld s hs)
    constructor
    · rw [hslot, h.slot, Option.map_some, Option.map_some, Option.map_some, newest_append_held hold]
    · rintro _ ⟨⟩ s hs
      rw [newest_append_held hold]
      exact hold s hs

/-- The watches of a node are told of what is now held of it. -/
theorem Remembers.told {ws : Watches} {seen : List Snapshot} (hs : c'.held? node = some s)
    (hslot : ws.slots.get? node = some (Snapshot.newest seen))
    (hslots : c'.watches.slots = (ws.notify node s).2.slots) :
    Remembers node (some (seen ++ (c'.held? node).toList)) c' := by
  constructor
  · rw [hslots, Watches.slots_notify, if_pos rfl, hslot, hs, Option.map_some, Option.map_some,
      Option.toList_some, Snapshot.newest_append_singleton]
  · rintro _ ⟨⟩ s' hs'
    rw [hs] at hs' ⊢
    cases hs'
    exact isNews_newest_append_singleton seen s

theorem Remembers.set (h : Remembers node l c) (n : NodeId) (s : Snapshot) :
    Remembers node (l.map (· ++ ((c.set n s).2.held? node).toList)) (c.set n s).2 := by
  by_cases haccepts : accepts (c.held? n) s = true
  · rw [set_of_accepts haccepts]
    generalize hc' : (c.store n s).announce n s = c'
    have hheld (other : NodeId) : c'.held? other = if n = other then some s else c.held? other := by
      rw [← hc', held?, announce_store_snapshots, NameMap.get?_insert, held?]
    have hslots : c'.watches.slots = (c.watches.notify n s).2.slots := by
      rw [← hc', announce_store_watches]
    by_cases heq : n = node
    · subst heq
      have hs := (hheld n).trans (if_pos rfl)
      cases l with
      | none =>
        refine ⟨?_, nofun⟩
        rw [hslots, Watches.slots_notify, if_pos rfl, h.slot]
        rfl
      | some seen => exact .told hs h.slot hslots
    · refine h.still ?_ fun s' hs' => ?_
      · rw [hslots, Watches.slots_notify, if_neg heq]
      · rwa [hheld, if_neg heq] at hs'
  · obtain ⟨f, hset⟩ := set_of_not_accepts haccepts
    rw [hset]
    exact h.still rfl fun _ => id

theorem Remembers.remove (h : Remembers node l c) (n : NodeId) :
    Remembers node (((Action.remove n).attends node l).map
      (· ++ ((c.removeNode n).2.held? node).toList)) (c.removeNode n).2 := by
  have hslots (other : NodeId) : (c.removeNode n).2.watches.slots.get? other =
      if n = other then none else c.watches.slots.get? other := by
    rw [removeNode_watches]
    exact NameMap.get?_erase _ _ _
  rw [Action.attends]
  by_cases heq : n = node
  · rw [if_pos heq]
    exact ⟨(hslots node).trans (if_pos heq), nofun⟩
  · rw [if_neg heq]
    refine h.still ((hslots node).trans (if_neg heq)) fun s hs => ?_
    rwa [held?_of_erase (removeNode_snapshots c n), if_neg heq] at hs

/-- A new watch of a node is told of what is held of it. -/
theorem watch_watches (c : Cache) (n : NodeId) :
    (c.watch n).2.watches = match c.held? n with
      | none => (c.watches.subscribe n).2
      | some s => ((c.watches.subscribe n).2.notify n s).2 := by
  unfold watch refresh
  dsimp only
  rw [show (c.subscribe n).2.held? n = c.held? n from rfl]
  cases c.held? n <;> rfl

theorem Remembers.watch (h : Remembers node l c) (n : NodeId) :
    Remembers node (((Action.watch n).attends node l).map
      (· ++ ((c.watch n).2.held? node).toList)) (c.watch n).2 := by
  have hheld (other : NodeId) : (c.watch n).2.held? other = c.held? other := by
    rw [held?, watch_snapshots, held?]
  have hwatches := c.watch_watches n
  generalize (c.watch n).2 = c' at hheld hwatches ⊢
  rw [Action.attends]
  by_cases heq : n = node
  · subst heq
    have hslot : (c.watches.subscribe n).2.slots.get? n =
        some (Snapshot.newest (l.getD [])) := by
      rw [Watches.slots_subscribe, if_pos rfl, h.slot]
      cases l <;> rfl
    rw [if_pos rfl, Option.map_some]
    cases hs : c.held? n with
    | none =>
      rw [hs] at hwatches
      rw [hheld, hs, Option.toList_none, List.append_nil]
      refine ⟨by rw [hwatches, hslot, Option.map_some], fun _ _ s' hs' => ?_⟩
      rw [hheld, hs] at hs'
      cases hs'
    | some s =>
      rw [hs] at hwatches
      exact .told ((hheld n).trans hs) hslot (congrArg Watches.slots hwatches)
  · rw [if_neg heq]
    refine h.still ?_ fun s hs => (hheld node).symm.trans hs
    rw [hwatches]
    cases c.held? n with
    | none => exact (Watches.slots_subscribe _ _ _).trans (if_neg heq)
    | some s =>
      refine (Watches.slots_notify _ _ _ _).trans ((if_neg heq).trans ?_)
      exact (Watches.slots_subscribe _ _ _).trans (if_neg heq)

theorem Remembers.apply (h : Remembers node l c) (a : Action) :
    Remembers node ((a.attends node l).map (· ++ ((a.apply c).held? node).toList))
      (a.apply c) := by
  cases a with
  | set n s => exact h.set n s
  | get n =>
    refine h.still ?_ fun s hs => ?_
    · rw [Action.apply, get_watches]
    · rwa [Action.apply, held?, get_snapshots] at hs
  | clear n =>
    refine h.still ?_ fun s hs => ?_
    · rw [Action.apply, clear_watches]
    · rw [Action.apply, held?_of_erase (clear_snapshots c n)] at hs
      split at hs
      · cases hs
      · exact hs
  | remove n => exact h.remove n
  | watch n => exact h.watch n
  | latest w => exact h.still rfl fun _ => id
  | poll w =>
    refine h.still ?_ fun _ => id
    change (c.watches.poll w).2.slots.get? node = _
    unfold Watches.poll
    split <;> rfl
  | drop w => exact h.still rfl fun _ => id

theorem Remembers.run (h : Remembers node l c) (actions : List Action) :
    Remembers node (shown node c l actions) (c.run actions) := by
  induction actions generalizing c l with
  | nil => exact h
  | cons a rest ih => exact ih (h.apply a)

/-! ## New watches -/

/-- A new watch has seen nothing yet. -/
theorem get?_watch (h : c.watches.get? c.watches.nextId = none) (node : NodeId) :
    ∃ w, (c.watch node).2.watches.get? (c.watch node).1 = some w ∧ w.node = node ∧
      w.isOpen = true ∧ w.unseen = w.value.isSome := by
  have hnew := Watches.get?_subscribe h node c.watches.nextId
  rw [if_pos rfl] at hnew
  rw [watch_watches]
  cases c.held? node with
  | none => exact ⟨_, hnew, rfl, rfl, rfl⟩
  | some s =>
    rcases (c.watches.subscribe node).2.get?_notify node s c.watches.nextId with hsame | htold
    · exact ⟨_, hsame.trans hnew, rfl, rfl, rfl⟩
    · rw [hnew, Option.map_some, Watch.deliver, if_pos (by simp)] at htold
      exact ⟨_, htold, rfl, rfl, rfl⟩

/-- What the slot of a node has after a new watch is what the watch begins with. -/
theorem watch_first {first : Option Snapshot} (h : c.Tracks published)
    (hslot : (c.watch node).2.watches.slots.get? node = some first) :
    ((c.watch node).2.watches.latest (c.watch node).1).1 = first ∧
      ((c.watch node).2.watches.poll (c.watch node).1).1 = first.elim .pending .snapshot := by
  obtain ⟨w, hw, hnode, hopen, hunseen⟩ := get?_watch (h.watches.fresh _ (Nat.le_refl _)) node
  have hvalue := (watch_sound h.watches (h.held node)).1.slot _ w hw hopen
  rw [hnode, hslot, Option.some.injEq] at hvalue
  subst hvalue
  refine ⟨by rw [Watches.latest, hw, Option.bind_some], ?_⟩
  simp only [Watches.poll, hw, Watch.poll, hunseen, hopen]
  cases w.value <;> rfl

/-- There is always something to be said of a node that has just been watched. -/
theorem exists_shown_watch (node : NodeId) (c : Cache) (l : Option (List Snapshot))
    (actions : List Action) : ∃ seen, shown node c l (actions ++ [.watch node]) = some seen := by
  induction actions generalizing c l with
  | nil =>
    refine ⟨l.getD [] ++ ((c.watch node).2.held? node).toList, ?_⟩
    simp [shown, Action.attends, Action.apply]
  | cons a rest ih => exact ih _ _

/-- Whatever was done to a cache, a new watch of a node begins with the newest snapshot that
there was to be seen of it, and with nothing if there was none. This is what is held, unless
something else that is no older was to be seen since the node is watched. -/
theorem run_watch_begins (actions : List Action) (node : NodeId) :
    let c := run {} actions
    let seen := (shown node {} none (actions ++ [.watch node])).getD []
    let ws := (c.watch node).2.watches
    let id := (c.watch node).1
    (ws.latest id).1 = Snapshot.newest seen ∧
    (ws.poll id).1 = (Snapshot.newest seen).elim .pending .snapshot ∧
    ((ws.latest id).1 = c.held? node ↔
      match c.held? node with
      | none => seen = []
      | some s => ∃ before after, seen = before ++ s :: after ∧
        (∀ x ∈ before, x.version < s.version) ∧ ∀ x ∈ after, x.version ≤ s.version) := by
  intro c seen ws id
  obtain ⟨published, htracks⟩ := run_tracks .empty actions
  obtain ⟨seen', hseen⟩ := exists_shown_watch node {} none actions
  have hslot : ws.slots.get? node = some (Snapshot.newest seen) := by
    have hremembers := (Remembers.empty node).run (actions ++ [.watch node])
    have hrun : run {} (actions ++ [.watch node]) = (c.watch node).2 := List.foldl_append
    rw [hrun, hseen] at hremembers
    rw [show seen = seen' from congrArg (·.getD []) hseen]
    exact hremembers.slot
  obtain ⟨hlatest, hpoll⟩ := watch_first htracks hslot
  refine ⟨hlatest, hpoll, ?_⟩
  rw [hlatest]
  cases c.held? node with
  | none => exact Snapshot.newest_eq_none_iff
  | some s => exact Snapshot.newest_eq_some_iff

/-- A snapshot that was cleared is what a new watch begins with. -/
theorem not_always_begins_with_held : ¬∀ (actions : List Action) (node : NodeId),
    let c := run {} actions
    ((c.watch node).2.watches.latest (c.watch node).1).1 = c.held? node := by
  intro h
  have hcleared := congrArg (·.map Snapshot.version)
    (h [.watch "edge", .set "edge" (.blank ⟨1⟩), .clear "edge"] "edge")
  revert hcleared
  decide +kernel

end Cache

end GatewayPlane
