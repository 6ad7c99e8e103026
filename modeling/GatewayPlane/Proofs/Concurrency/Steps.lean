import GatewayPlane.Proofs.Concurrency.Machine

/-!
# What a step can do

All that one step of one thread can come to. What follows about runs is read off from these
moves, and never from the program again.
-/
namespace GatewayPlane.Concurrency
open Registry (Command)

variable {node : NodeId} {m m' : Machine} {t i j : Nat} {th : Thread} {task : Task}
  {p p' : Publications} {e : NodeEntry} {c : Cell}

/-! ## The parts of a machine -/

namespace Machine

@[simp] theorem goto_cells (m : Machine) (t : Nat) (th : Thread) : (m.goto t th).cells = m.cells :=
  rfl

@[simp] theorem put_cells (m : Machine) (i : Nat) (c : Cell) :
    (m.put i c).cells = m.cells.set i c := rfl

@[simp] theorem publish_cells (m : Machine) (p : Publications) :
    (m.publish p).cells = m.cells := rfl

@[simp] theorem log_cells (m : Machine) (w : Write) : (m.log w).cells = m.cells := rfl

@[simp] theorem takeOut_cells (m : Machine) (i : Nat) : (m.takeOut i).cells = m.cells := rfl

@[simp] theorem goto_threads (m : Machine) (t : Nat) (th : Thread) :
    (m.goto t th).threads = m.threads.set t th := rfl

@[simp] theorem goto_current (m : Machine) (t : Nat) (th : Thread) :
    (m.goto t th).current = m.current := rfl

@[simp] theorem unlock_current (m : Machine) (i : Nat) : (m.unlock i).current = m.current := rfl

/-- Only the entry that is in the map can be taken out of it. -/
@[simp] theorem takeOut_current_eq_some_iff :
    (m.takeOut i).current = some j ↔ i ≠ j ∧ m.current = some j := by
  rw [takeOut]
  split <;> grind

@[simp] theorem goto_writes (m : Machine) (t : Nat) (th : Thread) :
    (m.goto t th).writes = m.writes := rfl

@[simp] theorem put_writes (m : Machine) (i : Nat) (c : Cell) : (m.put i c).writes = m.writes :=
  rfl

@[simp] theorem publish_writes (m : Machine) (p : Publications) :
    (m.publish p).writes = m.writes := rfl

@[simp] theorem log_writes (m : Machine) (w : Write) : (m.log w).writes = w :: m.writes := rfl

@[simp] theorem unlock_writes (m : Machine) (i : Nat) : (m.unlock i).writes = m.writes := rfl

end Machine

theorem Task.takesOut_of_creates (h : task.creates = true) : task.takesOut = false := by
  cases task with
  | listen | deploy => rfl
  | undeploy | remove => cases h

/-! ## Work on an entry -/

/-- What comes of a task while it holds the lock of an entry that stays in the map. -/
inductive Task.Worked (node : NodeId) (task : Task) (e : NodeEntry) (p : Publications) :
    NodeEntry.Outcome (Option Version) → Prop
  | failed {f : Fault} {p' : Publications} (agrees : p.Agrees p') :
      Worked node task e p (.error f, e, p')
  | again {port : UInt16} {v : Version} {p' : Publications} (listens : task = .listen port)
      (same : e.listenerPort = some port) (agrees : p.Agrees p') :
      Worked node task e p (.ok (some v), e, p')
  | published {b : Bundle} {v : Version} {p' : Publications}
      (permitted : (task.command node).Permitted e)
      (known : ((task.command node).edit e).isBare = false)
      (fit : composeChecked node ((task.command node).edit e).base
        ((task.command node).edit e).contributions = .ok b)
      (gains : p.Gains node (.ofBundle v b) p') :
      Worked node task e p (.ok (some v), (task.command node).edit e, p')
  | emptied (stays : task.creates = false) (permitted : (task.command node).Permitted e)
      (bare : ((task.command node).edit e).isBare = true) :
      Worked node task e p (.ok none, (task.command node).edit e, p)

/-- Work that ends by publishing what a task makes of the entry. -/
theorem Task.Worked.of_attempt (task : Task) {x : Except Fault Version × Publications}
    (permitted : (task.command node).Permitted e)
    (known : ((task.command node).edit e).isBare = false)
    (hx : p.Attempt node ((task.command node).edit e).base
      ((task.command node).edit e).contributions x) :
    task.Worked node e p
      ((NodeEntry.settle e ((task.command node).edit e) x).map (·.map some) id) := by
  cases hx with
  | unfit _ hagrees | refused _ _ hagrees => exact .failed hagrees
  | done hfit hgains => exact .published permitted known hfit hgains

theorem Task.work_worked (node : NodeId) (e : NodeEntry) (p : Publications)
    (hvalid : task.fault? = none) (hstays : task.takesOut = false) :
    task.Worked node e p (task.work node e p) := by
  cases task with
  | listen port =>
    have hport : port ≠ 0 := by
      intro h
      rw [fault?, if_pos h] at hvalid
      cases hvalid
    rw [work]
    by_cases hidle : e.listenerPort = some port ∧ ∃ s, p.cache.held? node = some s
    · obtain ⟨hsame, s, hheld⟩ := hidle
      rw [NodeEntry.listen_of_held hsame hheld]
      exact .again rfl hsame
        ⟨Cache.get_snapshots .., rfl, Cache.get_stats_set .., Cache.get_watches ..⟩
    · have hfresh (h : e.listenerPort = some port) : p.cache.held? node = none := by
        rw [Option.eq_none_iff_forall_ne_some]
        exact fun s hs => hidle ⟨h, s, hs⟩
      obtain ⟨p', hagrees, hwork⟩ := NodeEntry.listen_eq_settle hfresh
      rw [hwork]
      exact .of_attempt (.listen port) hport rfl
        ((p'.publish_attempt ..).of_agrees hagrees)
  | deploy c =>
    have hid : c.deploymentId.isEmpty = false := by
      rw [Bool.eq_false_iff]
      intro h
      rw [fault?, if_pos h] at hvalid
      cases hvalid
    rw [work]
    cases hclash : e.clash? c with
    | some d =>
      obtain ⟨field, reason, hwork⟩ := NodeEntry.deploy_of_clash (p := p) hclash
      rw [hwork]
      exact .failed (.refl p)
    | none =>
      rw [NodeEntry.deploy_eq_settle hclash]
      refine .of_attempt (.deploy c) ⟨hid, hclash⟩ ?_ (p.publish_attempt ..)
      simp [Task.command, Command.edit, NodeEntry.isBare, NodeEntry.replace_ne_nil]
  | undeploy deploymentId =>
    rw [work]
    by_cases hlisted : e.contributions.any (·.deploymentId == deploymentId) = true
    · rw [if_pos hlisted]
      have hpermitted : (Command.undeploy node deploymentId).Permitted e := by
        simpa [Command.Permitted] using hlisted
      have hbare : ((Command.undeploy node deploymentId).edit e).isBare =
          ((e.contributions.eraseP (·.deploymentId == deploymentId)).isEmpty && e.base.isEmpty) :=
        Bool.and_comm ..
      dsimp only
      by_cases hlast : ((e.contributions.eraseP (·.deploymentId == deploymentId)).isEmpty &&
          e.base.isEmpty) = true
      · rw [if_pos hlast]
        exact .emptied rfl hpermitted (hbare.trans hlast)
      · rw [if_neg hlast]
        have hworked := Task.Worked.of_attempt (.undeploy deploymentId) hpermitted
          (hbare.trans (eq_false_of_ne_true hlast)) (p.publish_attempt ..)
        rw [command, Command.edit] at hworked
        generalize p.publish node e.base _ = x at hworked ⊢
        obtain ⟨f | v, p'⟩ := x <;> exact hworked
    · rw [if_neg hlisted]
      exact .failed (.refl p)
  | remove => cases hstays

theorem Task.clear_loses (node : NodeId) (p : Publications) (task : Task) :
    p.Loses node { p with cache := task.clear node p.cache } := by
  cases task with
  | remove =>
    exact ⟨Cache.removeNode_snapshots .., rfl, Cache.removeNode_stats_set ..,
      .inr (Cache.removeNode_watches ..)⟩
  | listen | deploy | undeploy =>
    exact ⟨Cache.clear_snapshots .., rfl, Cache.clear_stats_set .., .inl (Cache.clear_watches ..)⟩

/-! ## Moves -/

/-- What a step of a thread makes of the machine. -/
inductive Move (node : NodeId) (m : Machine) (t : Nat) : Thread → Machine → Prop
  | idle {th : Thread} : Move node m t th m
  /-- Nothing has come of the task, or it looks for another entry. -/
  | left {task : Task} {stage stage' : Stage} {p : Publications}
      (known : stage = .ready ∨ ∃ i, stage = .found i ∧ task.takesOut = false ∧
        ∀ c, task.creates = true → m.cells[i]? = some c →
          c.removed = true ∨ c.entry.isBare = false)
      (ends : stage' = .ready ∨ ∃ f, stage' = .done (.error f))
      (agrees : m.published.Agrees p) :
      Move node m t ⟨task, stage⟩ ((m.publish p).goto t ⟨task, stage'⟩)
  | fetched {task : Task} {i : Nat} (valid : task.fault? = none) (current : m.current = some i)
      (stays : task.takesOut = false) :
      Move node m t ⟨task, .ready⟩ (m.goto t ⟨task, .found i⟩)
  | created {task : Task} (valid : task.fault? = none) (absent : m.current = none)
      (creates : task.creates = true) :
      Move node m t ⟨task, .ready⟩ (m.create.goto t ⟨task, .found m.cells.length⟩)
  | tookOut {i : Nat} (current : m.current = some i) :
      Move node m t ⟨.remove, .ready⟩ ((m.takeOut i).goto t ⟨.remove, .found i⟩)
  | again {port : UInt16} {i : Nat} {c : Cell} {v : Version} {p : Publications}
      (cell : m.cells[i]? = some c) (present : c.removed = false)
      (same : c.entry.listenerPort = some port) (agrees : m.published.Agrees p) :
      Move node m t ⟨.listen port, .found i⟩
        (((m.publish p).put i { c with edits := c.edits ++ [.listen node port] }).goto t
          ⟨.listen port, .done (.ok (some v))⟩)
  | published {task : Task} {i : Nat} {c : Cell} {b : Bundle} {v : Version} {p : Publications}
      (cell : m.cells[i]? = some c) (present : c.removed = false) (stays : task.takesOut = false)
      (permitted : (task.command node).Permitted c.entry)
      (known : ((task.command node).edit c.entry).isBare = false)
      (fit : composeChecked node ((task.command node).edit c.entry).base
        ((task.command node).edit c.entry).contributions = .ok b)
      (gains : m.published.Gains node (.ofBundle v b) p) :
      Move node m t ⟨task, .found i⟩
        ((((m.log (.published i)).publish p).put i { c with
          entry := (task.command node).edit c.entry
          edits := c.edits ++ [task.command node] }).goto t ⟨task, .done (.ok (some v))⟩)
  | emptied {task : Task} {i : Nat} {c : Cell} (cell : m.cells[i]? = some c)
      (present : c.removed = false)
      (permitted : (task.command node).Permitted c.entry)
      (bare : ((task.command node).edit c.entry).isBare = true) :
      Move node m t ⟨task, .found i⟩
        ((m.put i ⟨(task.command node).edit c.entry, true, true,
          c.edits ++ [task.command node]⟩).goto t ⟨task, .dropping i⟩)
  | marked {i : Nat} {c : Cell} (cell : m.cells[i]? = some c) :
      Move node m t ⟨.remove, .found i⟩
        ((m.put i ⟨c.entry, true, true, c.edits ++ [.remove node]⟩).goto t
          ⟨.remove, .clearing i⟩)
  | failed {task : Task} {i : Nat} {c : Cell} {f : Fault} {p : Publications}
      (cell : m.cells[i]? = some c) (present : c.removed = false)
      (bare : c.entry.isBare = true) (agrees : m.published.Agrees p) :
      Move node m t ⟨task, .found i⟩
        (((m.publish p).put i { c with removed := true, locked := true }).goto t
          ⟨task, .forgetting i f⟩)
  | forgot {task : Task} {i : Nat} {f : Fault} :
      Move node m t ⟨task, .forgetting i f⟩
        (((m.takeOut i).unlock i).goto t ⟨task, .done (.error f)⟩)
  | dropped {task : Task} {i : Nat} :
      Move node m t ⟨task, .dropping i⟩ ((m.takeOut i).goto t ⟨task, .clearing i⟩)
  | cleared {task : Task} {i : Nat} {p : Publications} (loses : m.published.Loses node p) :
      Move node m t ⟨task, .clearing i⟩
        ((((m.publish p).log (.cleared i)).unlock i).goto t ⟨task, .done (.ok none)⟩)

namespace Machine

theorem find_move (node : NodeId) (m : Machine) (t : Nat) (task : Task) :
    Move node m t ⟨task, .ready⟩ (m.find node t task) := by
  have hfails (f : Fault) : Move node m t ⟨task, .ready⟩ (m.goto t ⟨task, .done (.error f)⟩) :=
    .left (.inl rfl) (.inr ⟨f, rfl⟩) (.refl m.published)
  unfold find
  cases hfault : task.fault? with
  | some f => exact hfails f
  | none =>
    cases hcurrent : m.current with
    | some i =>
      cases task with
      | remove => exact .tookOut hcurrent
      | listen | deploy | undeploy => exact .fetched hfault hcurrent rfl
    | none =>
      dsimp only
      split
      · next hcreates => exact .created hfault hcurrent hcreates
      · exact hfails _

theorem hold_move (hvalid : task.fault? = none) (hcell : m.cells[i]? = some c) :
    Move node m t ⟨task, .found i⟩ (m.hold node t task i c) := by
  unfold hold
  by_cases hgone : (c.removed && !task.takesOut) = true
  · rw [if_pos hgone]
    rw [Bool.and_eq_true, Bool.not_eq_true'] at hgone
    refine .left (p := m.published) (.inr ⟨i, rfl, hgone.2, ?_⟩) ?_ (.refl m.published)
    · intro c' _ hc'
      rw [hcell] at hc'
      cases hc'
      exact .inl hgone.1
    · split
      · exact .inl rfl
      · exact .inr ⟨_, rfl⟩
  rw [if_neg hgone]
  cases htakes : task.takesOut with
  | true =>
    cases task with
    | remove => exact .marked hcell
    | listen | deploy | undeploy => cases htakes
  | false =>
    have hpresent : c.removed = false := by simpa [htakes] using hgone
    have hworked := Task.work_worked node c.entry m.published hvalid htakes
    generalize task.work node c.entry m.published = x at hworked ⊢
    cases hworked with
    | failed hagrees =>
      dsimp only
      by_cases hbare : (task.creates && c.entry.isBare) = true
      · rw [if_pos hbare]
        rw [Bool.and_eq_true] at hbare
        exact .failed hcell hpresent hbare.2 hagrees
      · rw [if_neg hbare]
        refine .left (.inr ⟨i, rfl, htakes, ?_⟩) (.inr ⟨_, rfl⟩) hagrees
        intro c' hcreates hc'
        rw [hcell] at hc'
        cases hc'
        simpa [hcreates] using Or.inr hbare
    | again hlistens hsame hagrees =>
      subst hlistens
      dsimp only
      rw [if_pos hagrees.count]
      exact .again hcell hpresent hsame hagrees
    | published hpermitted hknown hfit hgains =>
      dsimp only
      rw [if_neg (by rw [hgains.count]; exact Nat.succ_ne_self _)]
      exact .published hcell hpresent htakes hpermitted hknown hfit hgains
    | emptied _ hpermitted hbare => exact .emptied hcell hpresent hpermitted hbare

/-- Every step is a move. A thread that has found an entry has a task that is not at fault. -/
theorem step_move (hth : m.threads[t]? = some th)
    (hvalid : ∀ i, th.stage = .found i → th.task.fault? = none) :
    Move node m t th (step node m t) := by
  rw [step, hth]
  obtain ⟨task, stage⟩ := th
  cases stage with
  | ready => exact find_move node m t task
  | found i =>
    dsimp only [advance]
    cases hcell : m.cells[i]? with
    | none => exact .idle
    | some c =>
      dsimp only
      split
      · exact .idle
      · exact hold_move (hvalid i rfl) hcell
  | forgetting i f => exact .forgot
  | dropping i => exact .dropped
  | clearing i => exact .cleared (Task.clear_loses node m.published task)
  | done reply => exact .idle

end Machine

/-! ## What a move never takes back -/

/-- Entries stay, marks and records on them too, and what is taken out of the map does not
come back. -/
structure Grows (m m' : Machine) : Prop where
  cells : ∀ (i : Nat) (c : Cell), m.cells[i]? = some c → ∃ c' : Cell,
    m'.cells[i]? = some c' ∧ (c.removed = true → c'.removed = true) ∧ c.edits ⊆ c'.edits
  away : ∀ i, i < m.cells.length → m.current ≠ some i → m'.current ≠ some i

theorem Grows.of_cells_eq (hcells : m'.cells = m.cells)
    (haway : ∀ i, m'.current = some i → m.current = some i) : Grows m m' where
  cells := fun _ c hc => ⟨c, hcells ▸ hc, id, List.Subset.refl _⟩
  away := fun i _ hi h => hi (haway i h)

theorem Grows.of_set (hc : m.cells[i]? = some c) (hcells : m'.cells = m.cells.set i c')
    (hcurrent : m'.current = m.current) (hremoved : c.removed = true → c'.removed = true)
    (hedits : c.edits ⊆ c'.edits) : Grows m m' where
  cells := by
    intro j d hd
    rw [hcells]
    by_cases hij : i = j
    · subst hij
      rw [hc] at hd
      cases hd
      exact ⟨c', List.getElem?_set_self (List.getElem?_eq_some_iff.1 hc).1, hremoved, hedits⟩
    · exact ⟨d, (List.getElem?_set_ne hij).trans hd, id, List.Subset.refl _⟩
  away := fun i _ hi h => hi (hcurrent ▸ h)

theorem Grows.of_unlock (hcells : m'.cells = (m.unlock i).cells)
    (haway : ∀ i, m'.current = some i → m.current = some i) : Grows m m' where
  cells := by
    intro j c hc
    rw [hcells, Machine.unlock, List.getElem?_modify, hc]
    refine ⟨_, rfl, ?_⟩
    dsimp only
    split <;> exact ⟨id, List.Subset.refl _⟩
  away := fun i _ hi h => hi (haway i h)

theorem Move.grows (hmove : Move node m t th m') : Grows m m' := by
  have hedits (l : List Command) (command : Command) : l ⊆ l ++ [command] :=
    List.subset_append_left l _
  cases hmove with
  | idle | left | fetched => exact .of_cells_eq rfl fun _ => id
  | tookOut | dropped => exact .of_cells_eq rfl (by simp)
  | created _ habsent =>
    refine ⟨fun i c hc => ⟨c, ?_, id, List.Subset.refl _⟩, fun i hi _ h => ?_⟩
    · exact (List.getElem?_append_left (List.getElem?_eq_some_iff.1 hc).1).trans hc
    · exact Nat.ne_of_gt hi (Option.some_inj.1 h)
  | again hc | published hc => exact .of_set hc rfl rfl id (hedits _ _)
  | emptied hc | marked hc => exact .of_set hc rfl rfl (fun _ => rfl) (hedits _ _)
  | failed hc => exact .of_set hc rfl rfl (fun _ => rfl) (List.Subset.refl _)
  | forgot => exact .of_unlock rfl (by simp)
  | cleared => exact .of_unlock rfl fun _ => id

theorem Grows.lt (hgrows : Grows m m') (hi : i < m.cells.length) : i < m'.cells.length := by
  obtain ⟨c', hc', -⟩ := hgrows.cells i _ (List.getElem?_eq_getElem hi)
  exact (List.getElem?_eq_some_iff.1 hc').1

end GatewayPlane.Concurrency
