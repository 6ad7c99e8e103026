import GatewayPlane.Proofs.Concurrency.Steps

/-!
# Tasks one after another

A task whose steps no other task comes between does what the registry does with its command.
So a registry is what tasks come to that take turns, and anything more is due to the order
of their steps.
-/
namespace GatewayPlane.Concurrency
open Registry (Command)

variable {node : NodeId} {m : Machine} {t i n : Nat} {task : Task} {c : Cell}
  {r : Registry} {reply : Reply}

/-- The node is known to the registry as the map has it, and the same is held. -/
structure Mirrors (node : NodeId) (m : Machine) (r : Registry) : Prop where
  published : m.published = r.published
  entry : m.known? = r.nodes.get? node
  free : ∀ i, m.current = some i →
    ∃ c, m.cells[i]? = some c ∧ c.removed = false ∧ c.locked = false

namespace Machine

theorem step_eq {th : Thread} (hth : m.threads[t]? = some th) :
    step node m t = m.advance node t th := by
  rw [step, hth]

/-- A task that is done takes no more steps. -/
theorem run_replicate_of_done (hdone : m.threads[t]? = some ⟨task, .done reply⟩) (n : Nat) :
    m.run node (List.replicate n t) = m := by
  induction n with
  | zero => rfl
  | succ n ih =>
    rw [List.replicate_succ]
    change (step node m t).run node (List.replicate n t) = m
    rw [step_eq hdone]
    exact ih

theorem known?_of_current (hi : m.current = some i) (hc : m.cells[i]? = some c) :
    m.known? = some c.entry := by
  rw [known?, hi, Option.bind_some, hc]
  rfl

theorem known?_of_none (h : m.current = none) : m.known? = none := by
  rw [known?, h]
  rfl

end Machine

/-! ## A task on its own -/

/-- Within some steps a task gets its reply, and the machine then mirrors a registry. -/
def Ends (node : NodeId) (m : Machine) (t n : Nat) (task : Task) (x : Reply × Registry) : Prop :=
  ∃ k ≤ n, Mirrors node (m.run node (List.replicate k t)) x.2 ∧
    (m.run node (List.replicate k t)).threads = m.threads.set t ⟨task, .done x.1⟩

variable {x : Reply × Registry} {th th' : Thread}

/-- A step of the thread leads on to its end. -/
theorem Ends.step {m₁ : Machine} (hth : m.threads[t]? = some th)
    (hadvance : m.advance node t th = m₁.goto t th') (hthreads : m₁.threads = m.threads)
    (h : (m₁.goto t th').threads[t]? = some th' → Ends node (m₁.goto t th') t n task x) :
    Ends node m t (n + 1) task x := by
  obtain ⟨hlt, -⟩ := List.getElem?_eq_some_iff.1 hth
  obtain ⟨k, hk, hmirrors, hends⟩ := h (by
    rw [Machine.goto_threads, List.getElem?_set_self (hthreads ▸ hlt)])
  refine ⟨k + 1, Nat.succ_le_succ hk, ?_⟩
  rw [List.replicate_succ]
  change Mirrors node ((Machine.step node m t).run node _) _ ∧
    ((Machine.step node m t).run node _).threads = _
  rw [Machine.step_eq hth, hadvance]
  refine ⟨hmirrors, hends.trans ?_⟩
  rw [Machine.goto_threads, hthreads, List.set_set]

/-- The last step of the thread. -/
theorem Ends.last {m₁ : Machine} (hth : m.threads[t]? = some th)
    (hadvance : m.advance node t th = m₁.goto t ⟨task, .done x.1⟩)
    (hthreads : m₁.threads = m.threads) (h : Mirrors node m₁ x.2) :
    Ends node m t (n + 1) task x := by
  refine ⟨1, Nat.succ_le_succ (Nat.zero_le n), ?_⟩
  change Mirrors node (Machine.step node m t) _ ∧ (Machine.step node m t).threads = _
  rw [Machine.step_eq hth, hadvance]
  exact ⟨⟨h.published, h.entry, h.free⟩, by rw [Machine.goto_threads, hthreads]⟩

/-- What a registry makes of the work of a task on what it knows of the node. -/
def Amounts (node : NodeId) (task : Task) (e : NodeEntry) :
    NodeEntry.Outcome (Option Version) → Reply × Registry → Prop
  | (.ok (some v), e', p), x =>
    x.1 = .ok (some v) ∧ p = x.2.published ∧ x.2.nodes.get? node = some e'
  | (.ok none, _, p), x =>
    x.1 = .ok none ∧ { p with cache := task.clear node p.cache } = x.2.published ∧
      x.2.nodes.get? node = none
  | (.error f, e', p), x =>
    x.1 = .error f ∧ p = x.2.published ∧
      x.2.nodes.get? node = if task.creates && e'.isBare then none else some e

theorem Mirrors.put (hi : m.current = some i) (hc : m.cells[i]? = some c)
    (hpublished : m.published = r.published) (hpresent : c.removed = false)
    (hfree : c.locked = false) (hentry : r.nodes.get? node = some c.entry) : Mirrors node m r := by
  refine ⟨hpublished, (Machine.known?_of_current hi hc).trans hentry.symm, fun j hj => ?_⟩
  rw [hi] at hj
  cases hj
  exact ⟨c, hc, hpresent, hfree⟩

theorem Mirrors.gone (hcurrent : m.current = none) (hpublished : m.published = r.published)
    (hentry : r.nodes.get? node = none) : Mirrors node m r :=
  ⟨hpublished, (Machine.known?_of_none hcurrent).trans hentry.symm,
    fun _ hi => absurd (hcurrent.symm.trans hi) nofun⟩

/-- A thread that has found the entry gets to its end when it has the lock. -/
theorem ends_found (hth : m.threads[t]? = some ⟨task, .found i⟩) (hstays : task.takesOut = false)
    (hi : m.current = some i) (hc : m.cells[i]? = some c) (hpresent : c.removed = false)
    (hfree : c.locked = false)
    (hx : Amounts node task c.entry (task.work node c.entry m.published) x) :
    Ends node m t 3 task x := by
  have hlt := (List.getElem?_eq_some_iff.1 hc).1
  have hadvance : m.advance node t ⟨task, .found i⟩ = m.hold node t task i c := by
    simp [Machine.advance, hc, hfree]
  rw [Machine.hold, if_neg (by simp [hpresent])] at hadvance
  obtain ⟨reply, r⟩ := x
  rcases hwork : task.work node c.entry m.published with ⟨f | ⟨_ | v⟩, e, p⟩ <;>
    rw [hwork] at hx hadvance <;> dsimp only at hadvance <;>
    obtain ⟨rfl, hpublished, hentry⟩ := hx
  · by_cases hbare : (task.creates && e.isBare) = true
    · rw [if_pos hbare] at hadvance hentry
      refine .step hth hadvance rfl fun hth => ?_
      exact .last hth rfl rfl (.gone (if_pos hi) hpublished hentry)
    · rw [if_neg hbare] at hadvance hentry
      exact .last hth hadvance rfl (.put hi hc hpublished hpresent hfree hentry)
  · rw [if_neg (by simp [hstays])] at hadvance
    refine .step hth hadvance rfl fun hth => ?_
    refine .step hth rfl rfl fun hth => ?_
    exact .last hth rfl rfl (.gone (if_pos hi) hpublished hentry)
  · refine .last hth hadvance (by split <;> rfl) ?_
    refine .put (i := i) (c := { c with entry := e, edits := c.edits ++ [task.command node] })
      ?_ ?_ hpublished hpresent hfree hentry
    · split <;> exact hi
    · split <;> exact List.getElem?_set_self hlt

/-- A task at fault changes nothing. -/
theorem perform_of_fault {f : Fault} (hfault : task.fault? = some f) :
    (task.command node).perform r = (.error f, r) := by
  cases task with
  | listen port =>
    rw [Task.fault?] at hfault
    split at hfault
    · next hport =>
      cases hfault
      rw [Task.command, Command.perform, Registry.initializeNode, if_pos hport]
      rfl
    · cases hfault
  | deploy c =>
    rw [Task.fault?] at hfault
    split at hfault
    · next hid =>
      cases hfault
      rw [Task.command, Command.perform, Registry.deploy, if_pos hid]
      rfl
    · cases hfault
  | undeploy | remove => cases hfault

/-- A task that makes an entry does what the registry does on its node. -/
theorem perform_creating (hvalid : task.fault? = none) (hcreates : task.creates = true) :
    (task.command node).perform r = r.onNode node fun e p => task.work node e p := by
  have hmap (work : NodeEntry → Publications → NodeEntry.Outcome Version) :
      (r.onNode node work).map (·.map some) id =
        r.onNode node fun e p => (work e p).map (·.map some) id := by
    rw [Registry.onNode, Registry.onNode]
    rcases work ((r.nodes.get? node).getD {}) r.published with ⟨f | v, e, p⟩ <;> rfl
  cases task with
  | listen port =>
    rw [Task.fault?] at hvalid
    split at hvalid
    · cases hvalid
    · next hport =>
      rw [Task.command, Command.perform, Registry.initializeNode, if_neg hport, hmap]
      rfl
  | deploy c =>
    rw [Task.fault?] at hvalid
    split at hvalid
    · cases hvalid
    · next hid =>
      rw [Task.command, Command.perform, Registry.deploy, if_neg hid, hmap]
      rfl
  | undeploy | remove => cases hcreates

theorem onNode_amounts (node : NodeId) (r : Registry) (hvalid : task.fault? = none)
    (hcreates : task.creates = true) :
    Amounts node task (r.entry node) (task.work node (r.entry node) r.published)
      (r.onNode node fun e p => task.work node e p) := by
  have hworked := Task.work_worked node (r.entry node) r.published hvalid
    (Task.takesOut_of_creates hcreates)
  unfold Registry.entry at hworked ⊢
  rw [Registry.onNode]
  generalize task.work node ((r.nodes.get? node).getD {}) r.published = w at hworked ⊢
  cases hworked with
  | failed =>
    refine ⟨rfl, rfl, ?_⟩
    dsimp only
    rw [hcreates, Bool.true_and]
    split
    · exact (NameMap.get?_erase ..).trans (if_pos rfl)
    · exact NameMap.get?_insert_self ..
  | again | published => exact ⟨rfl, rfl, NameMap.get?_insert_self ..⟩
  | emptied hmakes => exact Bool.noConfusion (hmakes.symm.trans hcreates)

theorem undeploy_amounts {deploymentId : String} {e : NodeEntry}
    (he : r.nodes.get? node = some e) :
    Amounts node (.undeploy deploymentId) e
      (Task.work node e r.published (.undeploy deploymentId)) (r.undeploy node deploymentId) := by
  rw [Registry.undeploy, he, Task.work]
  dsimp only
  split
  · split
    · exact ⟨rfl, rfl, (NameMap.get?_erase ..).trans (if_pos rfl)⟩
    · rcases r.published.publish node e.base _ with ⟨f | v, p⟩
      · exact ⟨rfl, rfl, he⟩
      · exact ⟨rfl, rfl, NameMap.get?_insert_self ..⟩
  · exact ⟨rfl, rfl, he⟩

/-- A task on a node that is not there makes an entry, or knows that it is not there. -/
theorem Mirrors.ends_absent (h : Mirrors node m r) (hth : m.threads[t]? = some ⟨task, .ready⟩)
    (hvalid : task.fault? = none) (hcurrent : m.current = none) :
    Ends node m t 4 task ((task.command node).perform r) := by
  have hentry : r.nodes.get? node = none :=
    h.entry.symm.trans (Machine.known?_of_none hcurrent)
  have hadvance : m.advance node t ⟨task, .ready⟩ = m.find node t task := rfl
  rw [Machine.find, hvalid, hcurrent] at hadvance
  dsimp only at hadvance
  by_cases hcreates : task.creates = true
  · rw [if_pos hcreates] at hadvance
    rw [perform_creating hvalid hcreates]
    have hamounts := onNode_amounts node r hvalid hcreates
    rw [Registry.entry, hentry, Option.getD_none, ← h.published] at hamounts
    have hnew : (m.cells ++ [({} : Cell)])[m.cells.length]? = some {} := List.getElem?_concat_length
    have hstays : task.takesOut = false := Task.takesOut_of_creates hcreates
    exact .step hth hadvance rfl fun hth =>
      ends_found (c := {}) hth hstays rfl hnew rfl rfl hamounts
  · rw [if_neg hcreates] at hadvance
    have hperform : (task.command node).perform r = (.error (.nodeNotFound node), r) := by
      cases task with
      | listen | deploy => exact absurd rfl hcreates
      | undeploy deploymentId => rw [Task.command, Command.perform, Registry.undeploy, hentry]
      | remove =>
        rw [Task.command, Command.perform, Registry.removeNode, NameMap.contains, hentry]
        rfl
    rw [hperform]
    exact .last hth hadvance rfl h

/-- A removal of a node that is there takes it out of the map and of the cache. -/
theorem Mirrors.ends_removing (h : Mirrors node m r)
    (hth : m.threads[t]? = some ⟨.remove, .ready⟩) (hcurrent : m.current = some i) :
    Ends node m t 4 .remove ((Command.remove node).perform r) := by
  obtain ⟨c, hc, -, hfree⟩ := h.free i hcurrent
  have hentry : r.nodes.get? node = some c.entry :=
    h.entry.symm.trans (Machine.known?_of_current hcurrent hc)
  have hperform : (Command.remove node).perform r = (.ok none, {
      nodes := r.nodes.erase node
      published := { r.published with cache := (r.cache.removeNode node).2 } }) := by
    rw [Command.perform, Registry.removeNode, if_pos (by rw [NameMap.contains, hentry]; rfl)]
    rfl
  rw [hperform]
  have hfind : m.advance node t ⟨.remove, .ready⟩ = (m.takeOut i).goto t ⟨.remove, .found i⟩ := by
    rw [Machine.advance, Machine.find, hcurrent]
    rfl
  refine .step hth hfind rfl fun hth => ?_
  generalize hfound : (m.takeOut i).goto t ⟨.remove, .found i⟩ = m₁ at hth
  obtain ⟨hcell, hnone, hpublished⟩ : m₁.cells[i]? = some c ∧ m₁.current = none ∧
      m₁.published = r.published := by
    subst hfound
    exact ⟨hc, if_pos hcurrent, h.published⟩
  have hhold : m₁.advance node t ⟨.remove, .found i⟩ =
      (m₁.put i ⟨c.entry, true, true, c.edits ++ [.remove node]⟩).goto t
        ⟨.remove, .clearing i⟩ := by
    rw [Machine.advance, hcell]
    dsimp only
    rw [if_neg (by simp [hfree]), Machine.hold, if_neg (by simp [Task.takesOut])]
    rfl
  refine .step hth hhold rfl fun hth => ?_
  refine .last hth rfl rfl (.gone hnone ?_ ?_)
  · exact congrArg (fun p : Publications => { p with cache := (p.cache.removeNode node).2 })
      hpublished
  · exact (NameMap.get?_erase ..).trans (if_pos rfl)

/-- A task whose steps no other comes between does what the registry does. -/
theorem Mirrors.ends (h : Mirrors node m r) (hth : m.threads[t]? = some ⟨task, .ready⟩) :
    Ends node m t 4 task ((task.command node).perform r) := by
  cases hfault : task.fault? with
  | some f =>
    rw [perform_of_fault hfault]
    refine .last hth ?_ rfl h
    rw [Machine.advance, Machine.find, hfault]
  | none =>
    cases hcurrent : m.current with
    | none => exact h.ends_absent hth hfault hcurrent
    | some i =>
      cases htakes : task.takesOut with
      | true =>
        cases task with
        | remove => exact h.ends_removing hth hcurrent
        | listen | deploy | undeploy => cases htakes
      | false =>
        obtain ⟨c, hc, hpresent, hfree⟩ := h.free i hcurrent
        have hentry : r.nodes.get? node = some c.entry :=
          h.entry.symm.trans (Machine.known?_of_current hcurrent hc)
        have hamounts : Amounts node task c.entry (task.work node c.entry m.published)
            ((task.command node).perform r) := by
          rw [h.published]
          cases hcreates : task.creates with
          | true =>
            rw [perform_creating hfault hcreates]
            have hamounts := onNode_amounts node r hfault hcreates
            rwa [Registry.entry, hentry, Option.getD_some] at hamounts
          | false =>
            cases task with
            | undeploy deploymentId => exact undeploy_amounts hentry
            | listen | deploy => cases hcreates
            | remove => cases htakes
        refine .step hth ?_ rfl fun hth => ends_found hth htakes hcurrent hc hpresent hfree hamounts
        rw [Machine.advance, Machine.find, hfault, hcurrent]
        dsimp only
        rw [if_neg (by simp [htakes])]

theorem Mirrors.turn (h : Mirrors node m r) (hth : m.threads[t]? = some ⟨task, .ready⟩) :
    Mirrors node (m.run node (List.replicate 4 t)) ((task.command node).perform r).2 ∧
      (m.run node (List.replicate 4 t)).threads =
        m.threads.set t ⟨task, .done ((task.command node).perform r).1⟩ := by
  obtain ⟨k, hk, hmirrors, hthreads⟩ := h.ends hth
  have hdone : (m.run node (List.replicate k t)).threads[t]? =
      some ⟨task, .done ((task.command node).perform r).1⟩ := by
    rw [hthreads, List.getElem?_set_self (List.getElem?_eq_some_iff.1 hth).1]
  have hrest : m.run node (List.replicate 4 t) = m.run node (List.replicate k t) := by
    rw [← Nat.add_sub_of_le hk, ← List.replicate_append_replicate, Machine.run, List.foldl_append]
    exact Machine.run_replicate_of_done hdone _
  rw [hrest]
  exact ⟨hmirrors, hthreads⟩

/-! ## Tasks that take turns -/

/-- The replies to a run of commands. -/
def replies (r : Registry) : List Command → List Reply
  | [] => []
  | c :: rest => (c.perform r).1 :: replies (c.perform r).2 rest

theorem Mirrors.turns (h : Mirrors node m r) (pre : List Thread) {tasks : List Task}
    (hthreads : m.threads = pre ++ tasks.map (⟨·, .ready⟩)) :
    let m' := m.run node ((List.range' pre.length tasks.length).flatMap (List.replicate 4))
    Mirrors node m' (r.run (tasks.map (·.command node))) ∧
      m'.threads = pre ++ List.zipWith (fun task reply => ⟨task, .done reply⟩) tasks
        (replies r (tasks.map (·.command node))) := by
  induction tasks generalizing pre m r with
  | nil => exact ⟨h, hthreads⟩
  | cons task rest ih =>
    have hth : m.threads[pre.length]? = some ⟨task, .ready⟩ := by
      rw [hthreads, List.map_cons, List.getElem?_append_right (Nat.le_refl _), Nat.sub_self]
      rfl
    obtain ⟨hmirrors, hturn⟩ := h.turn hth
    have hset : (m.run node (List.replicate 4 pre.length)).threads =
        (pre ++ [⟨task, .done ((task.command node).perform r).1⟩]) ++ rest.map (⟨·, .ready⟩) := by
      rw [hturn, hthreads, List.map_cons, List.set_append_right _ _ (Nat.le_refl _), Nat.sub_self,
        List.set_cons_zero, List.append_assoc]
      rfl
    have hrest := ih hmirrors _ hset
    rw [List.length_append, List.length_singleton] at hrest
    dsimp only
    rw [List.length_cons, List.range'_succ, List.flatMap_cons, Machine.run, List.foldl_append]
    refine ⟨hrest.1, hrest.2.trans ?_⟩
    rw [List.append_assoc]
    rfl

/-- Tasks that take turns leave what the registry leaves that is asked for the same one after
another, and get the same replies. -/
theorem run_one_by_one (node : NodeId) (tasks : List Task) :
    let m := (Machine.start tasks).run node
      ((List.range tasks.length).flatMap (List.replicate 4))
    let r := Registry.run {} (tasks.map (·.command node))
    m.published = r.published ∧ m.known? = r.nodes.get? node ∧
      m.threads = List.zipWith (fun task reply => ⟨task, .done reply⟩) tasks
        (replies {} (tasks.map (·.command node))) := by
  have h : Mirrors node (Machine.start tasks) {} := .gone rfl rfl rfl
  obtain ⟨hmirrors, hthreads⟩ := h.turns [] rfl
  rw [List.length_nil, ← List.range_eq_range'] at hmirrors hthreads
  exact ⟨hmirrors.published, hmirrors.entry, hthreads⟩

end GatewayPlane.Concurrency
