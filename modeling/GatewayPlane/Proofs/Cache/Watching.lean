import GatewayPlane.Cache.Basic
import GatewayPlane.NameMap.Lemmas

/-!
# What watches show

Whoever looks at a watch from time to time sees newer and newer snapshots of its node, each
of them one that was published: the slot of a node is only ever filled with something newer,
and a watch that is open agrees with its slot.
-/
namespace GatewayPlane

namespace Watch
variable {w : Watch} {current : Option Snapshot} {node : NodeId} {s : Snapshot}

/-- What a watch has for one who saw something last: just that, or something newer that was
not seen yet. -/
inductive Follows (w : Watch) (current : Option Snapshot) : Prop
  | seen (seen : w.unseen = false) (value : w.value = current)
  | news {y} (unseen : w.unseen = true) (value : w.value = some y)
      (newer : ∀ x, current = some x → x.version < y.version)

theorem see_follows (w : Watch) : w.see.Follows w.value := .seen rfl rfl

theorem Follows.close (h : w.Follows current) : (w.close node).Follows current := by
  unfold Watch.close
  split
  · cases h with
    | seen hseen hvalue => exact .seen hseen hvalue
    | news hunseen hvalue hnewer => exact .news hunseen hvalue hnewer
  · exact h

theorem deliver_cases (w : Watch) (node : NodeId) (s : Snapshot) :
    (w.isOpen = true ∧ w.node = node ∧
        w.deliver node s = { w with value := some s, unseen := true }) ∨
      (¬(w.isOpen = true ∧ w.node = node) ∧ w.deliver node s = w) := by
  have hcond : (w.isOpen && w.node == node) = true ↔ w.isOpen = true ∧ w.node = node := by simp
  by_cases h : w.isOpen = true ∧ w.node = node
  · exact .inl ⟨h.1, h.2, if_pos (hcond.2 h)⟩
  · exact .inr ⟨h, if_neg (mt hcond.1 h)⟩

/-- A snapshot is delivered when it is news after what the watch has. -/
theorem Follows.deliver (h : w.Follows current)
    (hnews : w.isOpen = true → w.node = node → Watches.isNews w.value s = true) :
    (w.deliver node s).Follows current := by
  rcases w.deliver_cases node s with ⟨hopen, hnode, hdeliver⟩ | ⟨-, hdeliver⟩
  · have hnews := hnews hopen hnode
    rw [hdeliver]
    refine .news rfl rfl fun x hx => ?_
    cases h with
    | seen _ hvalue =>
      rw [hvalue, hx] at hnews
      exact of_decide_eq_true hnews
    | news _ hvalue hnewer =>
      rw [hvalue] at hnews
      exact Version.lt_trans (hnewer x hx) (of_decide_eq_true hnews)
  · rwa [hdeliver]

/-- What is polled is newer than what was seen before. -/
theorem Follows.poll (h : w.Follows current) (hpoll : w.poll = .snapshot s) :
    w.value = some s ∧ ∀ x, current = some x → x.version < s.version := by
  unfold Watch.poll at hpoll
  cases h with
  | seen hseen =>
    rw [hseen] at hpoll
    cases hopen : w.isOpen <;> simp [hopen] at hpoll
  | news hunseen hvalue hnewer =>
    rw [hunseen, hvalue] at hpoll
    cases hpoll
    exact ⟨hvalue, hnewer⟩

end Watch

namespace Watches
variable {ws : Watches} {node : NodeId} {s : Snapshot} {published : List (NodeId × Snapshot)}

theorem id_of_get? {id : Nat} {w : Watch} (h : ws.get? id = some w) : w.id = id := by
  have hid := List.find?_some h
  exact beq_iff_eq.1 hid

theorem find?_map_watches (ws : Watches) {f : Watch → Watch} (hid : ∀ w, (f w).id = w.id)
    (id : Nat) : (ws.watches.map f).find? (·.id == id) = (ws.get? id).map f := by
  rw [List.find?_map, get?]
  congr 2
  funext w
  rw [Function.comp_apply, hid]

theorem get?_close (ws : Watches) (node : NodeId) (id : Nat) :
    (ws.close node).get? id = (ws.get? id).map (Watch.close node) := by
  refine find?_map_watches ws (fun w => ?_) id
  unfold Watch.close
  split <;> rfl

/-- Seeing what one watch has is nothing to the others. -/
theorem get?_see (ws : Watches) (id other : Nat) :
    (ws.see id).get? other =
      if other = id then (ws.get? id).map Watch.see else ws.get? other := by
  refine (find?_map_watches ws (fun w => ?_) other).trans ?_
  · split <;> rfl
  · split
    · next heq =>
      subst heq
      cases h : ws.get? other with
      | none => rfl
      | some w => simp [id_of_get? h]
    · next hne =>
      cases h : ws.get? other with
      | none => rfl
      | some w => simp [id_of_get? h, hne]

theorem get?_drop (ws : Watches) (id other : Nat) :
    (ws.drop id).get? other = if other = id then none else ws.get? other := by
  rw [get?, drop, List.find?_filter]
  split
  · next heq => simp [heq]
  · next hne =>
    rw [get?]
    congr 1
    funext w
    by_cases hw : w.id = other <;> simp [hw, hne]

theorem get?_subscribe (hfresh : ws.get? ws.nextId = none) (node : NodeId) (id : Nat) :
    (ws.subscribe node).2.get? id =
      if id = ws.nextId then
        some ⟨ws.nextId, node, (ws.slots.get? node).getD none,
          ((ws.slots.get? node).getD none).isSome, true⟩
      else ws.get? id := by
  rw [get?, subscribe, List.find?_append]
  change (ws.get? id).or _ = _
  split
  · next heq => simp [heq, hfresh]
  · next hne => simp [Ne.symm hne]

/-- A notification is passed on unless it is no news. -/
theorem notify_cases (ws : Watches) (node : NodeId) (s : Snapshot) :
    (ws.notify node s).2 = ws ∨
      ∃ slot, ws.slots.get? node = some slot ∧ isNews slot s = true ∧
        (ws.notify node s).2 = { ws with
          slots := ws.slots.insert node (some s)
          watches := ws.watches.map (Watch.deliver node s) } := by
  unfold notify
  cases hslot : ws.slots.get? node with
  | none => exact .inl rfl
  | some slot =>
    by_cases hnews : isNews slot s = true
    · exact .inr ⟨slot, rfl, hnews, congrArg Prod.snd (if_pos hnews)⟩
    · exact .inl (congrArg Prod.snd (if_neg hnews))

/-- Watches of which each has, as long as it is open, what the slot of its node has, and of
which none has anything that was not published for its node. -/
structure Sound (published : List (NodeId × Snapshot)) (ws : Watches) : Prop where
  fresh : ∀ id, ws.nextId ≤ id → ws.get? id = none
  slot : ∀ id w, ws.get? id = some w → w.isOpen = true → ws.slots.get? w.node = some w.value
  value : ∀ id w s, ws.get? id = some w → w.value = some s → (w.node, s) ∈ published
  held : ∀ node s, ws.slots.get? node = some (some s) → (node, s) ∈ published

/-- From some watches to later ones: each stays on its node, and still has what follows. -/
def Advances (ws ws' : Watches) : Prop :=
  ∀ id w, ws.get? id = some w → ∃ w', ws'.get? id = some w' ∧ w'.node = w.node ∧
    ∀ current, w.Follows current → w'.Follows current

/-- One watch advances in this way. -/
def AdvancesAt (ws : Watches) (id : Nat) (ws' : Watches) : Prop :=
  ∀ w, ws.get? id = some w → ∃ w', ws'.get? id = some w' ∧ w'.node = w.node ∧
    ∀ current, w.Follows current → w'.Follows current

theorem advancesAt_of_get? {ws' : Watches} {id : Nat} (h : ws'.get? id = ws.get? id) :
    ws.AdvancesAt id ws' :=
  fun w hw => ⟨w, h.trans hw, rfl, fun _ hfollows => hfollows⟩

theorem Advances.refl (ws : Watches) : ws.Advances ws := fun _ w h => ⟨w, h, rfl, fun _ => id⟩

theorem Advances.trans {ws' ws'' : Watches} (h : ws.Advances ws') (h' : ws'.Advances ws'') :
    ws.Advances ws'' := by
  intro id w hw
  obtain ⟨w', hw', hnode', hfollows'⟩ := h id w hw
  obtain ⟨w'', hw'', hnode'', hfollows''⟩ := h' id w' hw'
  exact ⟨w'', hw'', hnode''.trans hnode', fun current => hfollows'' current ∘ hfollows' current⟩

theorem Sound.empty : Sound [] {} where
  fresh _ _ := rfl
  slot _ _ := nofun
  value _ _ _ := nofun
  held _ _ := nofun

theorem Sound.mono {published' : List (NodeId × Snapshot)} (h : ws.Sound published)
    (hsub : published ⊆ published') : ws.Sound published' where
  fresh := h.fresh
  slot := h.slot
  value id w s hw hs := hsub (h.value id w s hw hs)
  held node s hs := hsub (h.held node s hs)

theorem Sound.notify (h : ws.Sound published) (hs : (node, s) ∈ published) :
    (ws.notify node s).2.Sound published ∧ ws.Advances (ws.notify node s).2 := by
  rcases ws.notify_cases node s with hsame | ⟨slot, hslot, hnews, hnotify⟩
  · rw [hsame]
    exact ⟨h, .refl ws⟩
  rw [hnotify]
  have hget (id : Nat) : (ws.watches.map (Watch.deliver node s)).find? (·.id == id) =
      (ws.get? id).map (Watch.deliver node s) := by
    refine find?_map_watches ws (fun w => ?_) id
    unfold Watch.deliver
    split <;> rfl
  refine ⟨⟨fun id hid => ?_, fun id w hw hopen => ?_, fun id w x hw hx => ?_, fun other x hx => ?_⟩,
    fun id w hw => ?_⟩
  · exact (hget id).trans (by rw [h.fresh id hid, Option.map_none])
  · obtain ⟨b, hb, rfl⟩ := Option.map_eq_some_iff.1 ((hget id).symm.trans hw)
    dsimp only
    rcases b.deliver_cases node s with ⟨-, rfl, hdeliver⟩ | ⟨hother, hdeliver⟩
    · rw [hdeliver, NameMap.get?_insert_self]
    · rw [hdeliver] at hopen ⊢
      rw [NameMap.get?_insert_of_ne _ _ fun heq => hother ⟨hopen, heq.symm⟩]
      exact h.slot id b hb hopen
  · obtain ⟨b, hb, rfl⟩ := Option.map_eq_some_iff.1 ((hget id).symm.trans hw)
    rcases b.deliver_cases node s with ⟨-, rfl, hdeliver⟩ | ⟨-, hdeliver⟩
    · rw [hdeliver] at hx ⊢
      cases hx
      exact hs
    · rw [hdeliver] at hx ⊢
      exact h.value id b x hb hx
  · rw [NameMap.get?_insert] at hx
    split at hx
    · next heq =>
      cases hx
      exact heq ▸ hs
    · exact h.held other x hx
  · refine ⟨w.deliver node s, (hget id).trans (by rw [hw, Option.map_some]), ?_,
      fun current hfollows => hfollows.deliver fun hopen hnode => ?_⟩
    · rcases w.deliver_cases node s with ⟨-, -, hdeliver⟩ | ⟨-, hdeliver⟩ <;> rw [hdeliver]
    · have hvalue := h.slot id w hw hopen
      rw [hnode, hslot] at hvalue
      rwa [← Option.some.inj hvalue]

theorem Sound.close (h : ws.Sound published) (node : NodeId) :
    (ws.close node).Sound published ∧ ws.Advances (ws.close node) := by
  have hopen (w : Watch) : (w.close node).isOpen = true → w.isOpen = true ∧ w.node ≠ node := by
    unfold Watch.close
    split
    · exact nofun
    · next hne => exact fun hopen => ⟨hopen, by simpa using hne⟩
  have hkept (w : Watch) : (w.close node).node = w.node ∧ (w.close node).value = w.value := by
    unfold Watch.close
    split <;> exact ⟨rfl, rfl⟩
  have hslots (other : NodeId) : (ws.close node).slots.get? other =
      if node = other then none else ws.slots.get? other := NameMap.get?_erase _ _ _
  refine ⟨⟨fun id hid => ?_, fun id w hw hstill => ?_, fun id w x hw hx => ?_,
    fun other x hx => ?_⟩, fun id w hw => ?_⟩
  · rw [get?_close, h.fresh id hid, Option.map_none]
  · rw [get?_close, Option.map_eq_some_iff] at hw
    obtain ⟨b, hb, rfl⟩ := hw
    obtain ⟨hstill, hne⟩ := hopen b hstill
    rw [(hkept b).1, (hkept b).2, hslots, if_neg (Ne.symm hne)]
    exact h.slot id b hb hstill
  · rw [get?_close, Option.map_eq_some_iff] at hw
    obtain ⟨b, hb, rfl⟩ := hw
    rw [(hkept b).2] at hx
    rw [(hkept b).1]
    exact h.value id b x hb hx
  · rw [hslots] at hx
    split at hx
    · cases hx
    · exact h.held other x hx
  · exact ⟨w.close node, by rw [get?_close, hw, Option.map_some], (hkept w).1,
      fun _ hfollows => hfollows.close⟩

theorem Sound.subscribe (h : ws.Sound published) (node : NodeId) :
    (ws.subscribe node).2.Sound published ∧ ws.Advances (ws.subscribe node).2 := by
  have hnew := h.fresh ws.nextId (Nat.le_refl _)
  have hget := get?_subscribe hnew node
  -- what the slot has, and what it had before the first watch
  have hslot (other : NodeId) : ((ws.subscribe node).2.slots.get? other) =
      if node = other then some ((ws.slots.get? node).getD none) else ws.slots.get? other :=
    NameMap.get?_insert _ _ _ _
  have hold {id : Nat} {w : Watch} (hw : ws.get? id = some w) : id ≠ ws.nextId := by
    rintro rfl
    rw [hnew] at hw
    cases hw
  have hvalue {s : Snapshot} (hs : (ws.slots.get? node).getD none = some s) :
      (node, s) ∈ published := by
    refine h.held node s ?_
    cases hcase : ws.slots.get? node with
    | none =>
      rw [hcase] at hs
      cases hs
    | some slot =>
      rw [hcase] at hs
      exact congrArg some hs
  refine ⟨⟨fun id hid => ?_, fun id w hw hopen => ?_, fun id w x hw hx => ?_, fun other x hx => ?_⟩,
    fun id w hw => ⟨w, ?_, rfl, fun _ hfollows => hfollows⟩⟩
  · have hid : ws.nextId + 1 ≤ id := hid
    rw [hget, if_neg (by omega)]
    exact h.fresh id (by omega)
  · rw [hget] at hw
    rw [hslot]
    split at hw
    · cases hw
      exact if_pos rfl
    · have hsame := h.slot id w hw hopen
      split
      · next heq =>
        subst heq
        rw [hsame, Option.getD_some]
      · exact hsame
  · rw [hget] at hw
    split at hw
    · cases hw
      exact hvalue hx
    · exact h.value id w x hw hx
  · rw [hslot] at hx
    split at hx
    · next heq => exact heq ▸ hvalue (Option.some.inj hx)
    · exact h.held other x hx
  · rw [hget, if_neg (hold hw)]
    exact hw

/-- Watches stay sound as long as the slots are the same and there is nothing new to watch. -/
theorem Sound.of_get? {ws' : Watches} (h : ws.Sound published) (hslots : ws'.slots = ws.slots)
    (hnext : ws'.nextId = ws.nextId)
    (hget : ∀ id w', ws'.get? id = some w' → ∃ w, ws.get? id = some w ∧
      w'.isOpen = w.isOpen ∧ w'.node = w.node ∧ w'.value = w.value) : ws'.Sound published where
  fresh id hid := by
    rw [Option.eq_none_iff_forall_ne_some]
    intro w' hw'
    obtain ⟨w, hw, -⟩ := hget id w' hw'
    rw [h.fresh id (hnext ▸ hid)] at hw
    cases hw
  slot id w' hw' hopen := by
    obtain ⟨w, hw, hsame, hnode, hvalue⟩ := hget id w' hw'
    rw [hslots, hnode, hvalue]
    exact h.slot id w hw (hsame ▸ hopen)
  value id w' s hw' hs := by
    obtain ⟨w, hw, -, hnode, hvalue⟩ := hget id w' hw'
    rw [hnode]
    exact h.value id w s hw (hvalue ▸ hs)
  held node s hs := h.held node s (hslots ▸ hs)

theorem Sound.see (h : ws.Sound published) (id : Nat) : (ws.see id).Sound published := by
  refine h.of_get? rfl rfl fun other w' hw' => ?_
  rw [get?_see] at hw'
  split at hw'
  · next heq =>
    obtain ⟨w, hw, rfl⟩ := Option.map_eq_some_iff.1 hw'
    exact ⟨w, heq ▸ hw, rfl, rfl, rfl⟩
  · exact ⟨w', hw', rfl, rfl, rfl⟩

theorem Sound.drop (h : ws.Sound published) (id : Nat) : (ws.drop id).Sound published := by
  refine h.of_get? rfl rfl fun other w' hw' => ?_
  rw [get?_drop] at hw'
  split at hw'
  · cases hw'
  · exact ⟨w', hw', rfl, rfl, rfl⟩

end Watches

/-- A node that is watched anew has a watch of its own, and the other watches stay as they were
unless there is news for them. -/
theorem Cache.watch_sound {c : Cache} {node : NodeId} {published : List (NodeId × Snapshot)}
    (h : c.watches.Sound published)
    (hheld : ∀ s, c.held? node = some s → (node, s) ∈ published) :
    (c.watch node).2.watches.Sound published ∧
      c.watches.Advances (c.watch node).2.watches ∧
      ∃ w, (c.watch node).2.watches.get? (c.watch node).1 = some w ∧ w.node = node := by
  obtain ⟨hsound, hadvances⟩ := h.subscribe node
  have hnew : ∃ w, (c.watches.subscribe node).2.get? c.watches.nextId = some w ∧
      w.node = node := by
    rw [Watches.get?_subscribe (h.fresh _ (Nat.le_refl _)), if_pos rfl]
    exact ⟨_, rfl, rfl⟩
  unfold Cache.watch Cache.refresh
  cases hcase : c.held? node with
  | none =>
    dsimp only
    rw [show (c.subscribe node).2.held? node = none from hcase]
    exact ⟨hsound, hadvances, hnew⟩
  | some s =>
    dsimp only
    rw [show (c.subscribe node).2.held? node = some s from hcase]
    obtain ⟨hsound', hadvances'⟩ := hsound.notify (hheld s hcase)
    obtain ⟨w, hw, hnode⟩ := hnew
    obtain ⟨w', hw', hnode', -⟩ := hadvances' _ w hw
    exact ⟨hsound', hadvances.trans hadvances', w', hw', hnode'.trans hnode⟩

theorem Cache.watch_snapshots (c : Cache) (node : NodeId) :
    (c.watch node).2.snapshots = c.snapshots := by
  unfold Cache.watch Cache.refresh
  dsimp only
  split <;> rfl

end GatewayPlane
