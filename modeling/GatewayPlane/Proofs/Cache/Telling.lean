import GatewayPlane.Proofs.Cache.Beginning

/-!
# What open watches are told

A snapshot that the cache accepts reaches the open watches of its node when it is newer than
all that there was to be seen of the node since it is watched. The cache itself only asks that
it is newer than what is held. The two are the same as long as nothing is cleared: what was
cleared is forgotten by the cache, but not by the watches.
-/
namespace GatewayPlane

theorem Snapshot.isNews_newest_iff {l : List Snapshot} {s : Snapshot} :
    Watches.isNews (newest l) s = true ↔ ∀ x ∈ l, x.version < s.version := by
  cases hnewest : newest l with
  | none =>
    rw [newest_eq_none_iff.1 hnewest]
    exact iff_of_true rfl nofun
  | some y =>
    have hy := newest_eq_some_iff.1 hnewest
    rw [isNews_some]
    constructor
    · exact fun hlt x hx => Version.lt_of_le_of_lt (hy.le x hx) hlt
    · obtain ⟨before, after, rfl, -⟩ := hy
      exact fun h => h y (by simp)

/-- An open watch is told of a snapshot that is newer than what it has, and of no other. -/
theorem Watches.Sound.get?_notify {ws : Watches} {published : List (NodeId × Snapshot)}
    (h : ws.Sound published) {id : Nat} {w : Watch} (hw : ws.get? id = some w)
    (hopen : w.isOpen = true) (s : Snapshot) : (ws.notify w.node s).2.get? id =
      some (if isNews w.value s then { w with value := some s, unseen := true } else w) := by
  have hslot := h.slot id w hw hopen
  unfold Watches.notify
  rw [hslot]
  dsimp only
  by_cases hnews : isNews w.value s = true
  · rw [if_pos hnews, if_pos hnews]
    refine (find?_map_watches ws (fun w => ?_) id).trans ?_
    · unfold Watch.deliver
      split <;> rfl
    · rw [hw, Option.map_some, Watch.deliver, if_pos (by simp [hopen])]
  · rw [if_neg hnews, if_neg hnews]
    exact hw

namespace Cache
variable {c : Cache} {node : NodeId} {l : Option (List Snapshot)}

/-- What is held of a node is no older than all that there was to be seen of it. -/
def Rises (node : NodeId) (shown : Option (List Snapshot)) (c : Cache) : Prop :=
  ∀ seen, shown = some seen → ∀ x ∈ seen, ∃ y, c.held? node = some y ∧ x.version ≤ y.version

theorem accepts_eq_true_iff {held : Option Snapshot} {s : Snapshot} :
    accepts held s = true ↔ ∀ y, held = some y → y.version < s.version := by
  cases held with
  | none => exact iff_of_true rfl nofun
  | some y => simp [accepts]

theorem accepts_of_set_ok {s : Snapshot} (h : (c.set node s).1 = .ok s) :
    accepts (c.held? node) s = true := by
  by_contra hrefused
  obtain ⟨f, hset⟩ := set_of_not_accepts hrefused
  rw [hset] at h
  cases h

/-- Unless a node is cleared or removed, what is held of it only gives way to something
newer. -/
theorem held?_apply {a : Action} (hclear : a ≠ .clear node) (hremove : a ≠ .remove node)
    {x : Snapshot} (hx : c.held? node = some x) :
    ∃ y, (a.apply c).held? node = some y ∧ x.version ≤ y.version := by
  have hsame {c' : Cache} (h : c'.snapshots = c.snapshots) :
      ∃ y, c'.held? node = some y ∧ x.version ≤ y.version :=
    ⟨x, by rwa [held?, h], Version.le_refl _⟩
  have herased {c' : Cache} {n : NodeId} (hn : n ≠ node) (h : c'.snapshots = c.snapshots.erase n) :
      ∃ y, c'.held? node = some y ∧ x.version ≤ y.version :=
    ⟨x, by rwa [held?_of_erase h, if_neg hn], Version.le_refl _⟩
  cases a with
  | set n s =>
    by_cases haccepts : accepts (c.held? n) s = true
    · rw [Action.apply, set_of_accepts haccepts]
      dsimp only
      rw [held?, announce_store_snapshots, NameMap.get?_insert]
      split
      · next heq =>
        subst heq
        exact ⟨s, rfl, Version.le_of_lt (accepts_eq_true_iff.1 haccepts x hx)⟩
      · exact ⟨x, hx, Version.le_refl _⟩
    · obtain ⟨f, hset⟩ := set_of_not_accepts haccepts
      rw [Action.apply, hset]
      exact hsame rfl
  | get n => exact hsame (get_snapshots c n)
  | clear n => exact herased (fun h => hclear (h ▸ rfl)) (clear_snapshots c n)
  | remove n => exact herased (fun h => hremove (h ▸ rfl)) (removeNode_snapshots c n)
  | watch n => exact hsame (watch_snapshots c n)
  | latest id => exact hsame rfl
  | poll id => exact hsame rfl
  | drop id => exact hsame rfl

/-- Nothing is there to be seen at first, so what is to be seen was so before. -/
theorem mem_of_attends {a : Action} {old : List Snapshot} {x : Snapshot}
    (hremove : a ≠ .remove node) (hold : a.attends node l = some old) (hx : x ∈ old) :
    ∃ seen, l = some seen ∧ x ∈ seen := by
  cases a with
  | watch n =>
    rw [Action.attends] at hold
    split at hold
    · cases hold
      cases l with
      | none => cases hx
      | some seen => exact ⟨seen, rfl, hx⟩
    · exact ⟨old, hold, hx⟩
  | remove n =>
    rw [Action.attends, if_neg fun heq : n = node => hremove (heq ▸ rfl)] at hold
    exact ⟨old, hold, hx⟩
  | _ => exact ⟨old, hold, hx⟩

theorem Rises.apply (h : Rises node l c) {a : Action} (hclear : a ≠ .clear node) :
    Rises node ((a.attends node l).map (· ++ ((a.apply c).held? node).toList)) (a.apply c) := by
  intro seen hseen x hx
  obtain ⟨old, hold, rfl⟩ := Option.map_eq_some_iff.1 hseen
  rcases List.mem_append.1 hx with hx | hx
  · by_cases hremove : a = .remove node
    · subst hremove
      rw [Action.attends, if_pos rfl] at hold
      cases hold
    · -- what was seen before was seen by those who attended before
      have hbefore : ∃ seen, l = some seen ∧ x ∈ seen := mem_of_attends hremove hold hx
      obtain ⟨seen, hl, hmem⟩ := hbefore
      obtain ⟨y, hy, hle⟩ := h seen hl x hmem
      obtain ⟨z, hz, hle'⟩ := held?_apply hclear hremove hy
      exact ⟨z, hz, Version.le_iff.2 (Nat.le_trans (Version.le_iff.1 hle) (Version.le_iff.1 hle'))⟩
  · exact ⟨x, Option.mem_toList.1 hx, Version.le_refl _⟩

/-- As long as a node is never cleared, nothing that there was to be seen of it is newer than
what is held. -/
theorem Rises.run (h : Rises node l c) {actions : List Action}
    (hclear : ∀ a ∈ actions, a ≠ .clear node) :
    Rises node (shown node c l actions) (c.run actions) := by
  induction actions generalizing c l with
  | nil => exact h
  | cons a rest ih =>
    rw [List.forall_mem_cons] at hclear
    exact ih (h.apply hclear.1) hclear.2

/-- What an open watch has, after any run, is the newest of what there was to be seen. -/
theorem run_watch_value (actions : List Action) {id : Nat} {w : Watch}
    (hw : (run {} actions).watches.get? id = some w) (hopen : w.isOpen = true) :
    ∃ seen, shown w.node {} none actions = some seen ∧ w.value = Snapshot.newest seen := by
  obtain ⟨published, htracks⟩ := run_tracks .empty actions
  have hslot := ((Remembers.empty w.node).run actions).slot
  rw [htracks.watches.slot id w hw hopen] at hslot
  obtain ⟨seen, hseen, hnewest⟩ := Option.map_eq_some_iff.1 hslot.symm
  exact ⟨seen, hseen, hnewest.symm⟩

/-- An open watch is told of a snapshot that the cache accepts when it is newer than all that
there was to be seen of the node, and is left as it was otherwise. Unless the node was ever
cleared, everything that is accepted is newer. -/
theorem run_set_tells (actions : List Action) {node : NodeId} {s : Snapshot} {id : Nat} {w : Watch}
    (hset : ((run {} actions).set node s).1 = .ok s)
    (hw : (run {} actions).watches.get? id = some w) (hopen : w.isOpen = true)
    (hnode : w.node = node) :
    let c := run {} actions
    let seen := (shown node {} none actions).getD []
    let ws := (c.set node s).2.watches
    ((∀ x ∈ seen, x.version < s.version) →
      (ws.latest id).1 = some s ∧ (ws.poll id).1 = .snapshot s) ∧
    ((¬∀ x ∈ seen, x.version < s.version) →
      (ws.latest id).1 = Snapshot.newest seen ∧ (ws.poll id).1 = (c.watches.poll id).1) ∧
    ((∀ a ∈ actions, a ≠ .clear node) → ∀ x ∈ seen, x.version < s.version) := by
  subst hnode
  intro c seen ws
  have haccepts : accepts (c.held? w.node) s = true := accepts_of_set_ok hset
  obtain ⟨published, htracks⟩ := run_tracks .empty actions
  obtain ⟨seen', hseen, hvalue⟩ := run_watch_value actions hw hopen
  obtain rfl : seen = seen' := congrArg (·.getD []) hseen
  have htold : ws.get? id = some
      (if Watches.isNews w.value s then { w with value := some s, unseen := true } else w) := by
    rw [← htracks.watches.get?_notify hw hopen s]
    exact congrArg (·.watches.get? id) (congrArg Prod.snd (set_of_accepts haccepts))
  rw [hvalue] at htold
  refine ⟨fun hnews => ?_, fun hold => ?_, fun hclear x hx => ?_⟩
  · rw [if_pos (Snapshot.isNews_newest_iff.2 hnews)] at htold
    simp [Watches.latest, Watches.poll, Watch.poll, htold]
  · rw [if_neg (mt Snapshot.isNews_newest_iff.1 hold)] at htold
    rw [Watches.latest, Watches.poll, Watches.poll, htold, hw]
    exact ⟨hvalue, rfl⟩
  · have hrises : Rises w.node none ({} : Cache) := fun _ hnone => absurd hnone (by simp)
    obtain ⟨y, hy, hle⟩ := hrises.run hclear seen hseen x hx
    exact Version.lt_of_le_of_lt hle (accepts_eq_true_iff.1 haccepts y hy)

theorem newer_than_cleared_told :
    let c := run {} [.watch "edge", .set "edge" (.blank ⟨2⟩), .clear "edge"]
    let s : Snapshot := .blank ⟨3⟩
    (c.set "edge" s).1 = .ok s ∧ ((c.set "edge" s).2.watches.latest 0).1 = some s ∧
      ((c.set "edge" s).2.watches.poll 0).1 = .snapshot s := by
  intro c s
  have hset : (c.set "edge" s).1 = .ok s := rfl
  have hw : c.watches.get? 0 = some ⟨0, "edge", some (.blank ⟨2⟩), true, true⟩ := rfl
  have htells := run_set_tells [.watch "edge", .set "edge" (.blank ⟨2⟩), .clear "edge"] hset hw
    rfl rfl
  exact ⟨hset, htells.1 (by decide +kernel)⟩

/-- A snapshot that is accepted after a newer one was cleared is never told. -/
theorem not_always_told : ¬∀ (actions : List Action) (node : NodeId) (s : Snapshot) (id : Nat)
    (w : Watch), ((run {} actions).set node s).1 = .ok s →
    (run {} actions).watches.get? id = some w → w.isOpen = true → w.node = node →
    (((run {} actions).set node s).2.watches.latest id).1 = some s := by
  intro h
  have htold := congrArg (·.map Snapshot.version)
    (h [.watch "edge", .set "edge" (.blank ⟨2⟩), .clear "edge"] "edge" (.blank ⟨1⟩) 0
      ⟨0, "edge", some (.blank ⟨2⟩), true, true⟩ rfl rfl rfl rfl)
  revert htold
  decide +kernel

end Cache

end GatewayPlane
