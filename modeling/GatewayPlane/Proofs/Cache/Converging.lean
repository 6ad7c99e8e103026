import GatewayPlane.Proofs.Cache.Beginning

/-!
# Watches whose notifications race

Those who set the snapshots of a node and those who begin to watch it do so in two steps each,
and nothing keeps the steps of one from coming between those of another. A notification may
arrive late, or after a newer one. Watches are told of newer and newer snapshots all the same,
and have what the cache holds as soon as everyone is done.
-/
namespace GatewayPlane

/-- A snapshot on its way to the watches of the node, from one who has set it, or from one who
has found it there for a new watch. -/
inductive Notice where
  | change (s : Snapshot)
  | finding (s : Snapshot)

namespace Notice

def snapshot : Notice → Snapshot
  | change s | finding s => s

def arrive (node : NodeId) (c : Cache) : Notice → Cache
  | change s => c.announce node s
  | finding s => { c with watches := (c.watches.notify node s).2 }

@[simp] theorem arrive_watches (n : Notice) (node : NodeId) (c : Cache) :
    (n.arrive node c).watches = (c.watches.notify node n.snapshot).2 := by
  cases n <;> rfl

@[simp] theorem arrive_held? (n : Notice) (node : NodeId) (c : Cache) :
    (n.arrive node c).held? node = c.held? node := by
  cases n <;> rfl

end Notice

/-- A cache on which many work at the same time, all on one node. -/
structure Race where
  cache : Cache := {}
  underway : List Notice := []
  /-- The new watches that were not told yet what is held. -/
  starting : List Nat := []
  /-- The snapshots that the cache has accepted, in this order. -/
  accepted : List Snapshot := []
  /-- The snapshots that were given to those who asked watches for the next one. -/
  given : List (Nat × Snapshot) := []

namespace Race

inductive Step where
  /-- Someone sets a snapshot; if it is accepted, the watches are yet to be told. -/
  | store (s : Snapshot)
  /-- One of the notifications arrives. -/
  | arrive (i : Nat)
  /-- Someone begins to watch the node; the watch is yet to be told what is held. -/
  | subscribe
  /-- A new watch is told what is held. -/
  | refresh (i : Nat)
  /-- The same, but what was found to be held is yet to arrive. -/
  | look (i : Nat)
  /-- Someone asks a watch for the next snapshot. -/
  | poll (id : Nat)
  /-- Someone looks at the newest snapshot of a watch. -/
  | latest (id : Nat)

def withWatches (r : Race) (ws : Watches) : Race :=
  { r with cache := { r.cache with watches := ws } }

def step (node : NodeId) (r : Race) : Step → Race
  | .store s =>
    if Cache.accepts (r.cache.held? node) s then
      { r with
        cache := r.cache.store node s
        underway := r.underway ++ [.change s]
        accepted := r.accepted ++ [s] }
    else { r with cache := r.cache.recordRejection }
  | .arrive i =>
    match r.underway[i]? with
    | some n => { r with cache := n.arrive node r.cache, underway := r.underway.eraseIdx i }
    | none => r
  | .subscribe =>
    { r with
      cache := (r.cache.subscribe node).2
      starting := r.starting ++ [(r.cache.subscribe node).1] }
  | .refresh i =>
    if i < r.starting.length then
      { r with cache := r.cache.refresh node, starting := r.starting.eraseIdx i }
    else r
  | .look i =>
    if i < r.starting.length then
      { r with
        underway := r.underway ++ ((r.cache.held? node).map Notice.finding).toList
        starting := r.starting.eraseIdx i }
    else r
  | .poll id =>
    let asked := r.withWatches (r.cache.watches.poll id).2
    match (r.cache.watches.poll id).1 with
    | .snapshot s => { asked with given := r.given ++ [(id, s)] }
    | .pending | .closed => asked
  | .latest id => r.withWatches (r.cache.watches.latest id).2

def run (node : NodeId) (steps : List Step) : Race := steps.foldl (step node) {}

/-- The snapshots that were given to those who asked one of the watches. -/
def givenTo (r : Race) (id : Nat) : List Snapshot :=
  r.given.filterMap fun g => if g.1 = id then some g.2 else none

/-- Whether everyone is done who has set a snapshot or begun to watch. -/
def isQuiet (r : Race) : Bool := r.underway.isEmpty && r.starting.isEmpty

/-! ## Steps that nothing comes between -/

theorem store_arrive_cache (node : NodeId) (r : Race) (s : Snapshot) :
    ((r.step node (.store s)).step node (.arrive r.underway.length)).cache =
      (r.cache.set node s).2 := by
  by_cases haccepts : Cache.accepts (r.cache.held? node) s = true
  · simp [step, haccepts, Cache.set_of_accepts, Notice.arrive]
  · simp [step, Cache.set, haccepts]

theorem subscribe_refresh_cache (node : NodeId) (r : Race) :
    ((r.step node .subscribe).step node (.refresh r.starting.length)).cache =
      (r.cache.watch node).2 := by
  simp [step, Cache.watch]

theorem subscribe_look_arrive_cache (node : NodeId) (r : Race) :
    (((r.step node .subscribe).step node (.look r.starting.length)).step node
      (.arrive r.underway.length)).cache = (r.cache.watch node).2 := by
  simp only [step, Cache.watch, Cache.refresh]
  cases (r.cache.subscribe node).2.held? node <;> simp [Notice.arrive]

end Race

/-! ## What one watch gives -/

theorem Watch.Follows.le {w : Watch} {x : Snapshot} (h : w.Follows (some x)) :
    ∃ y, w.value = some y ∧ x.version ≤ y.version := by
  cases h with
  | seen _ hvalue => exact ⟨x, hvalue, Version.le_refl _⟩
  | news _ hvalue hnewer => exact ⟨_, hvalue, Version.le_of_lt (hnewer x rfl)⟩

theorem Watch.value_of_poll {w : Watch} {s : Snapshot} (h : w.poll = .snapshot s) :
    w.value = some s := by
  unfold Watch.poll at h
  split at h
  · next hvalue =>
    cases h
    exact hvalue
  · split at h <;> cases h

namespace Watches
variable {ws ws' : Watches} {id : Nat} {s : Snapshot} {l : List Snapshot}

theorem poll_eq_snapshot (h : (ws.poll id).1 = .snapshot s) :
    ∃ w, ws.get? id = some w ∧ w.poll = .snapshot s ∧ (ws.poll id).2 = ws.see id := by
  unfold poll at h ⊢
  cases hw : ws.get? id with
  | none => simp [hw] at h
  | some w =>
    rw [hw] at h
    exact ⟨w, rfl, h, rfl⟩

theorem poll_snd (ws : Watches) (id : Nat) :
    (ws.poll id).2 = ws ∨ (ws.poll id).2 = ws.see id := by
  unfold poll
  split
  · exact .inl rfl
  · exact .inr rfl

/-- A watch that has given snapshots, each newer than the one before, and has nothing left that
is older than these. -/
def HasGiven (ws : Watches) (id : Nat) (l : List Snapshot) : Prop :=
  l.Pairwise (fun s t => s.version < t.version) ∧
    (l = [] ∨ ∃ w x, ws.get? id = some w ∧ w.Follows (some x) ∧ ∀ s ∈ l, s.version ≤ x.version)

theorem HasGiven.advance (h : ws.HasGiven id l) (hadvances : ws.Advances ws') :
    ws'.HasGiven id l := by
  refine ⟨h.1, h.2.imp_right ?_⟩
  rintro ⟨w, x, hw, hfollows, hle⟩
  obtain ⟨w', hw', -, hfollows'⟩ := hadvances id w hw
  exact ⟨w', x, hw', hfollows' _ hfollows, hle⟩

theorem HasGiven.see (h : ws.HasGiven id l) (other : Nat) : (ws.see other).HasGiven id l := by
  refine ⟨h.1, h.2.imp_right ?_⟩
  rintro ⟨w, x, hw, hfollows, hle⟩
  rw [get?_see]
  split
  · next heq =>
    subst heq
    obtain ⟨y, hy, hxy⟩ := hfollows.le
    refine ⟨w.see, y, by rw [hw, Option.map_some], hy ▸ w.see_follows, fun s hs => ?_⟩
    exact Version.le_iff.2 (Nat.le_trans (Version.le_iff.1 (hle s hs)) (Version.le_iff.1 hxy))
  · exact ⟨w, x, hw, hfollows, hle⟩

/-- What a watch gives next is newer than all that it has given. -/
theorem HasGiven.poll (h : ws.HasGiven id l) (hpoll : (ws.poll id).1 = .snapshot s) :
    (ws.poll id).2.HasGiven id (l ++ [s]) := by
  obtain ⟨w, hw, hsnapshot, hsee⟩ := poll_eq_snapshot hpoll
  rw [hsee]
  have hnewer : ∀ t ∈ l, t.version < s.version := by
    rcases h.2 with rfl | ⟨w', x, hw', hfollows, hle⟩
    · exact nofun
    · obtain rfl : w = w' := Option.some.inj (hw.symm.trans hw')
      obtain ⟨-, hx⟩ := hfollows.poll hsnapshot
      exact fun t ht => Version.lt_of_le_of_lt (hle t ht) (hx x rfl)
  refine ⟨List.pairwise_append.2 ⟨h.1, List.pairwise_singleton _ _, fun t ht u hu => ?_⟩,
    .inr ⟨w.see, s, ?_, Watch.value_of_poll hsnapshot ▸ w.see_follows, ?_⟩⟩
  · rw [List.mem_singleton.1 hu]
    exact hnewer t ht
  · rw [get?_see, if_pos rfl, hw, Option.map_some]
  · rw [List.forall_mem_append, List.forall_mem_singleton]
    exact ⟨fun t ht => Version.le_of_lt (hnewer t ht), Version.le_refl _⟩

/-- All watches are open on one node. -/
def AllOn (ws : Watches) (node : NodeId) : Prop :=
  ∀ id w, ws.get? id = some w → w.node = node ∧ w.isOpen = true

theorem AllOn.see {node : NodeId} (h : ws.AllOn node) (other : Nat) : (ws.see other).AllOn node := by
  intro id w hw
  rw [get?_see] at hw
  split at hw
  · obtain ⟨b, hb, rfl⟩ := Option.map_eq_some_iff.1 hw
    exact h other b hb
  · exact h id w hw

theorem AllOn.notify {node : NodeId} (h : ws.AllOn node) (s : Snapshot) :
    (ws.notify node s).2.AllOn node := by
  intro id w hw
  rcases ws.get?_notify node s id with hsame | htold
  · exact h id w (hsame ▸ hw)
  · rw [htold] at hw
    obtain ⟨b, hb, rfl⟩ := Option.map_eq_some_iff.1 hw
    rcases b.deliver_cases node s with ⟨hopen, hnode, hdeliver⟩ | ⟨-, hdeliver⟩
    · rw [hdeliver]
      exact ⟨hnode, hopen⟩
    · rw [hdeliver]
      exact h id b hb

theorem AllOn.subscribe {node : NodeId} (h : ws.AllOn node) (hfresh : ws.get? ws.nextId = none) :
    (ws.subscribe node).2.AllOn node := by
  intro id w hw
  rw [get?_subscribe hfresh] at hw
  split at hw
  · cases hw
    exact ⟨rfl, rfl⟩
  · exact h id w hw

end Watches

/-! ## What all steps keep -/

namespace Race
variable {node : NodeId} {r : Race}

/-- What the cache holds is the last of the snapshots that it has accepted; the slot of the
node has it too, or someone is still to see to that. -/
structure Inv (node : NodeId) (r : Race) : Prop where
  rising : r.accepted.Pairwise fun s t => s.version < t.version
  held : r.cache.held? node = r.accepted.getLast?
  underway : ∀ n ∈ r.underway, n.snapshot ∈ r.accepted
  sound : r.cache.watches.Sound (r.accepted.map fun s => (node, s))
  allOn : r.cache.watches.AllOn node
  owed : ∀ slot, r.cache.watches.slots.get? node = some slot →
    slot = r.cache.held? node ∨ r.starting ≠ [] ∨
      ∃ n ∈ r.underway, r.cache.held? node = some n.snapshot
  given : ∀ g ∈ r.given, g.2 ∈ r.accepted
  orderly : ∀ id, r.cache.watches.HasGiven id (r.givenTo id)

theorem Inv.start (node : NodeId) : Inv node {} where
  rising := .nil
  held := rfl
  underway := nofun
  sound := .empty
  allOn := nofun
  owed := nofun
  given := nofun
  orderly _ := ⟨.nil, .inl rfl⟩

/-- Nothing that was accepted is newer than what is held. -/
theorem Inv.held_cases (h : Inv node r) {x : Snapshot} (hx : x ∈ r.accepted) :
    ∃ s, r.cache.held? node = some s ∧ (x = s ∨ x.version < s.version) := by
  obtain ⟨s, hs⟩ := Option.isSome_iff_exists.1 (List.getLast?_isSome.2 (List.ne_nil_of_mem hx))
  refine ⟨s, h.held.trans hs, ?_⟩
  obtain ⟨before, hbefore⟩ := List.getLast?_eq_some_iff.1 hs
  have hrising := h.rising
  rw [hbefore, List.mem_append, List.mem_singleton] at hx
  rw [hbefore, List.pairwise_append] at hrising
  rcases hx with hx | hx
  · exact .inr (hrising.2.2 x hx s (List.mem_singleton_self s))
  · exact .inl hx

theorem Inv.mem_of_slot (h : Inv node r) {x : Snapshot}
    (hx : r.cache.watches.slots.get? node = some (some x)) : x ∈ r.accepted := by
  obtain ⟨s, hs, heq⟩ := List.mem_map.1 (h.sound.held node x hx)
  cases heq
  exact hs

theorem Inv.mem_of_value (h : Inv node r) {id : Nat} {w : Watch} {x : Snapshot}
    (hw : r.cache.watches.get? id = some w) (hx : w.value = some x) : x ∈ r.accepted := by
  obtain ⟨s, hs, heq⟩ := List.mem_map.1 (h.sound.value id w x hw hx)
  cases heq
  exact hs

/-- The slot has what is held once this has arrived there, whatever else has. -/
theorem Inv.slot_of_held (h : Inv node r) {slot : Option Snapshot} {s : Snapshot}
    (hslot : r.cache.watches.slots.get? node = some slot) (hs : r.cache.held? node = some s) :
    (if Watches.isNews slot s then some s else slot) = some s := by
  cases slot with
  | none => rfl
  | some x =>
    obtain ⟨s', hs', hcases⟩ := h.held_cases (h.mem_of_slot hslot)
    obtain rfl : s = s' := Option.some.inj (hs.symm.trans hs')
    rcases hcases with rfl | hlt
    · split <;> rfl
    · rw [if_pos (Snapshot.isNews_some.2 hlt)]

theorem Inv.slot_of_not_held (h : Inv node r) {slot : Option Snapshot}
    (hslot : r.cache.watches.slots.get? node = some slot) (hs : r.cache.held? node = none) :
    slot = none := by
  cases slot with
  | none => rfl
  | some x =>
    obtain ⟨s, hs', -⟩ := h.held_cases (h.mem_of_slot hslot)
    rw [hs] at hs'
    cases hs'

/-- Something that was accepted arrives at the watches. -/
theorem Inv.notify (h : Inv node r) {s : Snapshot} (hs : s ∈ r.accepted) {cache : Cache}
    {underway : List Notice} {starting : List Nat}
    (hwatches : cache.watches = (r.cache.watches.notify node s).2)
    (hheld : cache.held? node = r.cache.held? node) (hunderway : underway ⊆ r.underway)
    (howed : r.cache.held? node = some s ∨ ((r.starting ≠ [] → starting ≠ []) ∧
      ∀ n ∈ r.underway, r.cache.held? node = some n.snapshot → n ∈ underway)) :
    Inv node { r with cache := cache, underway := underway, starting := starting } := by
  have hmem : (node, s) ∈ r.accepted.map fun s => (node, s) := List.mem_map_of_mem hs
  obtain ⟨hsound, hadvances⟩ := h.sound.notify hmem
  rw [← hwatches] at hsound hadvances
  refine { h with
    held := hheld.trans h.held
    underway := fun n hn => h.underway n (hunderway hn)
    sound := hsound
    allOn := hwatches ▸ h.allOn.notify s
    owed := fun slot' hslot' => ?_
    orderly := fun id => (h.orderly id).advance hadvances }
  dsimp only at hslot' ⊢
  rw [hheld]
  rw [hwatches, Watches.slots_notify, if_pos rfl] at hslot'
  obtain ⟨slot, hslot, rfl⟩ := Option.map_eq_some_iff.1 hslot'
  rcases howed with hcurrent | ⟨hstarting, hstill⟩
  · exact .inl ((h.slot_of_held hslot hcurrent).trans hcurrent.symm)
  · rcases h.owed slot hslot with rfl | hsome | ⟨n, hn, hcurrent⟩
    · -- the slot had what is held, to which nothing that was accepted is news
      obtain ⟨x, hx, hcases⟩ := h.held_cases hs
      rw [hx]
      refine .inl (if_neg fun hnews => ?_)
      rw [Snapshot.isNews_some] at hnews
      rcases hcases with rfl | hlt
      · exact Version.lt_irrefl _ hnews
      · exact Version.lt_irrefl _ (Version.lt_trans hlt hnews)
    · exact .inr (.inl (hstarting hsome))
    · exact .inr (.inr ⟨n, hstill n hn hcurrent, hcurrent⟩)

theorem Inv.store (h : Inv node r) (s : Snapshot) : Inv node (r.step node (.store s)) := by
  unfold step
  dsimp only
  split
  · next haccepts =>
    have hnewer : ∀ x ∈ r.accepted, x.version < s.version := by
      intro x hx
      obtain ⟨y, hy, hcases⟩ := h.held_cases hx
      rw [hy] at haccepts
      have hlt : y.version < s.version := of_decide_eq_true haccepts
      rcases hcases with rfl | hlt'
      · exact hlt
      · exact Version.lt_trans hlt' hlt
    have hheld : (r.cache.store node s).held? node = some s := NameMap.get?_insert_self _ _ _
    constructor
    case rising =>
      refine List.pairwise_append.2 ⟨h.rising, List.pairwise_singleton _ _, fun x hx t ht => ?_⟩
      rw [List.mem_singleton.1 ht]
      exact hnewer x hx
    case held => rw [hheld, List.getLast?_concat]
    case underway =>
      intro n hn
      rcases List.mem_append.1 hn with hn | hn
      · exact List.mem_append_left _ (h.underway n hn)
      · rw [List.mem_singleton.1 hn]
        exact List.mem_append_right _ (List.mem_singleton_self s)
    case sound =>
      refine h.sound.mono ?_
      rw [List.map_append]
      exact List.subset_append_left _ _
    case allOn => exact h.allOn
    case owed =>
      exact fun _ _ => .inr (.inr ⟨.change s, by simp, hheld⟩)
    case given => exact fun g hg => List.mem_append_left _ (h.given g hg)
    case orderly => exact h.orderly
  · exact { h with }

theorem Inv.arrive (h : Inv node r) (i : Nat) : Inv node (r.step node (.arrive i)) := by
  unfold step
  dsimp only
  split
  · next n hn =>
    have hmem : n ∈ r.underway := List.mem_of_getElem? hn
    refine h.notify (h.underway n hmem) (n.arrive_watches node r.cache)
      (n.arrive_held? node r.cache) (List.eraseIdx_subset) ?_
    by_cases hcurrent : r.cache.held? node = some n.snapshot
    · exact .inl hcurrent
    · refine .inr ⟨id, fun n' hn' hheld => ?_⟩
      -- what stands elsewhere among the notifications stays there
      obtain ⟨j, hj⟩ := List.mem_iff_getElem?.1 hn'
      refine List.mem_eraseIdx_iff_getElem?.2 ⟨j, ?_, hj⟩
      rintro rfl
      rw [hn, Option.some.injEq] at hj
      exact hcurrent (hj ▸ hheld)
  · exact h

theorem Inv.subscribe (h : Inv node r) : Inv node (r.step node .subscribe) := by
  obtain ⟨hsound, hadvances⟩ := h.sound.subscribe node
  exact { h with
    sound := hsound
    allOn := h.allOn.subscribe (h.sound.fresh _ (Nat.le_refl _))
    owed := fun _ _ => .inr (.inl (by simp [step]))
    orderly := fun id => (h.orderly id).advance hadvances }

theorem Inv.refresh (h : Inv node r) (i : Nat) : Inv node (r.step node (.refresh i)) := by
  unfold step
  dsimp only
  split
  · unfold Cache.refresh
    cases hheld : r.cache.held? node with
    | none =>
      refine { h with owed := fun slot hslot => .inl ?_ }
      rw [hheld]
      exact h.slot_of_not_held hslot hheld
    | some s =>
      have hs : s ∈ r.accepted := List.mem_of_getLast? (h.held.symm.trans hheld)
      exact h.notify hs rfl rfl (List.Subset.refl _) (.inl hheld)
  · exact h

theorem Inv.look (h : Inv node r) (i : Nat) : Inv node (r.step node (.look i)) := by
  unfold step
  dsimp only
  split
  · cases hheld : r.cache.held? node with
    | none =>
      refine { h with
        underway := by simpa using h.underway
        owed := fun slot hslot => .inl ?_ }
      rw [hheld]
      exact h.slot_of_not_held hslot hheld
    | some s =>
      have hs : s ∈ r.accepted := List.mem_of_getLast? (h.held.symm.trans hheld)
      refine { h with
        underway := fun n hn => ?_
        owed := fun _ _ => .inr (.inr ⟨.finding s, by simp, hheld⟩) }
      rcases List.mem_append.1 hn with hn | hn
      · exact h.underway n hn
      · rw [List.mem_singleton.1 hn]
        exact hs
  · exact h

theorem Inv.see (h : Inv node r) (id : Nat) : Inv node (r.withWatches (r.cache.watches.see id)) :=
  { h with
    sound := h.sound.see id
    allOn := h.allOn.see id
    orderly := fun other => (h.orderly other).see id }

theorem Inv.poll (h : Inv node r) (id : Nat) : Inv node (r.step node (.poll id)) := by
  have hasked : Inv node (r.withWatches (r.cache.watches.poll id).2) := by
    rcases r.cache.watches.poll_snd id with hsame | hsee
    · rw [hsame]
      exact h
    · rw [hsee]
      exact h.see id
  unfold Race.step
  dsimp only
  cases hpoll : (r.cache.watches.poll id).1 with
  | pending | closed => exact hasked
  | snapshot s =>
    obtain ⟨w, hw, hsnapshot, -⟩ := Watches.poll_eq_snapshot hpoll
    have hs := h.mem_of_value hw (Watch.value_of_poll hsnapshot)
    refine { hasked with
      given := List.forall_mem_append.2 ⟨h.given, List.forall_mem_singleton.2 hs⟩
      orderly := fun other => ?_ }
    have hnext : [(id, s)].filterMap (fun g => if g.1 = other then some g.2 else none) =
        if id = other then [s] else [] := by
      by_cases heq : id = other <;> simp [heq]
    rw [givenTo, List.filterMap_append, hnext]
    by_cases heq : id = other
    · subst heq
      rw [if_pos rfl]
      exact (h.orderly id).poll hpoll
    · rw [if_neg heq, List.append_nil]
      exact hasked.orderly other

theorem Inv.step (h : Inv node r) (s : Step) : Inv node (r.step node s) := by
  cases s with
  | store s => exact h.store s
  | arrive i => exact h.arrive i
  | subscribe => exact h.subscribe
  | refresh i => exact h.refresh i
  | look i => exact h.look i
  | poll id => exact h.poll id
  | latest id => exact h.see id

theorem Inv.run (h : Inv node r) (steps : List Step) :
    Inv node (steps.foldl (Race.step node) r) := by
  induction steps generalizing r with
  | nil => exact h
  | cons s rest ih => exact ih (h.step s)

/-- When everyone is done, every watch has what is held. -/
theorem Inv.value_eq (h : Inv node r) (hquiet : r.isQuiet = true) {id : Nat} {w : Watch}
    (hw : r.cache.watches.get? id = some w) : w.value = r.cache.held? node := by
  obtain ⟨hunderway, hstarting⟩ : r.underway = [] ∧ r.starting = [] := by
    simpa [isQuiet] using hquiet
  obtain ⟨rfl, hopen⟩ := h.allOn id w hw
  rcases h.owed w.value (h.sound.slot id w hw hopen) with hheld | hsome | ⟨n, hn, -⟩
  · exact hheld
  · exact absurd hstarting hsome
  · rw [hunderway] at hn
    cases hn

/-- Whatever the order in which snapshots are set, watches begun and notifications arrive:
what a watch gives is newer each time and was accepted by the cache; the watches are never
ahead of the cache, which holds the newest of what it has accepted; and once everyone is done
every watch has what is held. -/
theorem run_converges (node : NodeId) (steps : List Step) :
    let r := run node steps
    (∀ id, (r.givenTo id).Pairwise (fun s t => s.version < t.version) ∧
      ∀ s ∈ r.givenTo id, s ∈ r.accepted) ∧
    (∀ s, r.cache.watches.slots.get? node = some (some s) →
      ∃ current, r.cache.held? node = some current ∧ s.version ≤ current.version) ∧
    (r.cache.held? node = none ↔ r.accepted = []) ∧
    (∀ s, r.cache.held? node = some s ↔ s ∈ r.accepted ∧ ∀ x ∈ r.accepted, x.version ≤ s.version) ∧
    (r.isQuiet = true → ∀ id w, r.cache.watches.get? id = some w →
      (r.cache.watches.latest id).1 = r.cache.held? node) := by
  intro r
  have h : Inv node r := (Inv.start node).run steps
  have hle {x : Snapshot} (hx : x ∈ r.accepted) :
      ∃ s, r.cache.held? node = some s ∧ x.version ≤ s.version := by
    obtain ⟨s, hs, rfl | hlt⟩ := h.held_cases hx
    · exact ⟨_, hs, Version.le_refl _⟩
    · exact ⟨s, hs, Version.le_of_lt hlt⟩
  refine ⟨fun id => ⟨(h.orderly id).1, fun s hs => ?_⟩, fun s hs => hle (h.mem_of_slot hs), ?_,
    fun s => ⟨fun hs => ⟨List.mem_of_getLast? (h.held.symm.trans hs), fun x hx => ?_⟩, ?_⟩,
    fun hquiet id w hw => ?_⟩
  · obtain ⟨g, hg, heq⟩ := List.mem_filterMap.1 hs
    split at heq
    · cases heq
      exact h.given g hg
    · cases heq
  · rw [h.held, List.getLast?_eq_none_iff]
  · obtain ⟨s', hs', hxs⟩ := hle hx
    rwa [Option.some.inj (hs.symm.trans hs')]
  · rintro ⟨hs, hmax⟩
    obtain ⟨s', hs', rfl | hlt⟩ := h.held_cases hs
    · exact hs'
    · have hmem : s' ∈ r.accepted := List.mem_of_getLast? (h.held.symm.trans hs')
      exact absurd hlt (Nat.not_lt.2 (hmax s' hmem))
  · rw [Watches.latest, hw, Option.bind_some]
    exact h.value_eq hquiet hw

/-- The newer of two notifications arrives first, before the watch is told what is held. -/
theorem run_converges_overtaken :
    let r := run "edge" [.subscribe, .store (.blank ⟨1⟩), .store (.blank ⟨2⟩), .arrive 1, .poll 0,
      .arrive 0, .refresh 0, .poll 0]
    r.isQuiet = true ∧ (r.cache.watches.latest 0).1 = r.cache.held? "edge" ∧
      (r.givenTo 0).map Snapshot.version = [⟨2⟩] := by
  intro r
  have hquiet : r.isQuiet = true := rfl
  refine ⟨hquiet, ?_, rfl⟩
  obtain ⟨-, -, -, -, hlatest⟩ := run_converges "edge" [.subscribe, .store (.blank ⟨1⟩),
    .store (.blank ⟨2⟩), .arrive 1, .poll 0, .arrive 0, .refresh 0, .poll 0]
  exact hlatest hquiet 0 _ rfl

end Race

end GatewayPlane
