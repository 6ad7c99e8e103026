import GatewayPlane.Proofs.Concurrency.Keeping
import GatewayPlane.Proofs.Registry.Redeploying

/-!
# What is left when all tasks are done

Whatever the order of their steps, tasks leave the map and the cache in accord with each
other, but for one thing: an entry that was taken out of the map can be cleared from the
cache after another has been published in its place. Nothing that was deployed is lost from
the entry itself.
-/
namespace GatewayPlane.Concurrency
open Registry (Command)

variable {node : NodeId} {m : Machine} {i : Nat} {d : Contribution}

/-! ## Deployments on an entry -/

/-- Whether a command takes a deployment away, or puts another in its place. -/
def Overrides (d : Contribution) : Command → Prop
  | .listen .. => False
  | .deploy _ c => c.deploymentId = d.deploymentId
  | .undeploy _ deploymentId => deploymentId = d.deploymentId
  | .remove _ => True

theorem mem_replace_of_mem {c : Contribution} {l : List Contribution} (h : d ∈ l)
    (hid : c.deploymentId ≠ d.deploymentId) : d ∈ NodeEntry.replace c l := by
  induction l with
  | nil => cases h
  | cons d' rest ih =>
    rw [NodeEntry.replace]
    rcases List.mem_cons.1 h with rfl | h
    · rw [if_neg hid.symm]
      exact List.mem_cons_self
    · split
      · exact List.mem_cons_of_mem c h
      · exact List.mem_cons_of_mem d' (ih h)

theorem mem_contributions_edit {e : NodeEntry} {command : Command} (h : d ∈ e.contributions)
    (hnot : ¬Overrides d command) : d ∈ (command.edit e).contributions := by
  cases command with
  | listen _ port => exact h
  | deploy _ c => exact mem_replace_of_mem h hnot
  | undeploy _ deploymentId =>
    refine (List.mem_eraseP_of_neg ?_).2 h
    simpa using Ne.symm hnot
  | remove => exact absurd trivial hnot

/-- A deployment stays until a command overrides it. -/
theorem mem_foldl_edit (d : Contribution) (after : List Command) {e : NodeEntry}
    (h : d ∈ e.contributions) :
    d ∈ (after.foldl (fun e command => command.edit e) e).contributions ∨
      ∃ command ∈ after, Overrides d command := by
  induction after generalizing e with
  | nil => exact .inl h
  | cons command rest ih =>
    by_cases hover : Overrides d command
    · exact .inr ⟨command, List.mem_cons_self, hover⟩
    · refine (ih (mem_contributions_edit h hover)).imp_right ?_
      rintro ⟨later, hlater, hover⟩
      exact ⟨later, List.mem_cons_of_mem command hlater, hover⟩

theorem Cell.mem_amount {c : Cell} {before after : List Command}
    (h : c.edits = before ++ .deploy node d :: after) :
    d ∈ c.amount.contributions ∨ ∃ command ∈ after, Overrides d command := by
  rw [amount, h, List.foldl_append, List.foldl_cons]
  exact mem_foldl_edit d after (NodeEntry.mem_replace_self d _)

/-! ## When all is quiet -/

namespace Machine

/-- Whether the cache was cleared last in the name of an entry that the map no longer has,
after something had been published for the one that it has now. -/
def ClearedLate (m : Machine) : Prop :=
  ∃ i j earlier, m.current = some i ∧ i ≠ j ∧ m.writes = .cleared j :: earlier ∧
    .published i ∈ earlier

theorem exists_done (hquiet : m.quiet = true) {th : Thread} (hth : th ∈ m.threads) :
    ∃ reply, th.stage = .done reply := by
  have hdone := List.all_eq_true.1 hquiet th hth
  cases hstage : th.stage with
  | done reply => exact ⟨reply, rfl⟩
  | ready | found | forgetting | dropping | clearing =>
    rw [hstage] at hdone
    cases hdone

theorem not_owes (hquiet : m.quiet = true) (duty : Duty) : ¬m.Owes duty i := by
  rintro ⟨th, hth, hlies⟩
  obtain ⟨reply, hreply⟩ := exists_done hquiet hth
  cases duty <;> simp [Duty.LiesWith, hreply] at hlies

end Machine

/-- The entry in the map, when all is quiet: it is known, and was published. -/
theorem Inv.current (h : Inv node m) (hquiet : m.quiet = true) (hi : m.current = some i) :
    ∃ c, m.cells[i]? = some c ∧ m.known? = some c.entry ∧ c.removed = false ∧
      c.entry.isBare = false ∧
      (∃ b, composeChecked node c.entry.base c.entry.contributions = .ok b) ∧
      .published i ∈ m.writes := by
  obtain ⟨c, hc⟩ : ∃ c, m.cells[i]? = some c := ⟨_, List.getElem?_eq_getElem (h.current_lt i hi)⟩
  have hkept := h.kept i c hc
  have hpresent : c.removed = false := by
    rw [Bool.eq_false_iff]
    exact fun hremoved => Machine.not_owes hquiet _ (hkept.detached hremoved hi)
  have hknown : c.entry.isBare = false := by
    rw [Bool.eq_false_iff]
    exact fun hbare => Machine.not_owes hquiet _ (hkept.tended hpresent hbare hi)
  have hentry : m.known? = some c.entry := by
    rw [Machine.known?, hi, Option.bind_some, hc]
    rfl
  exact ⟨c, hc, hentry, hpresent, hknown, hkept.fit hpresent hknown⟩

/-- What was published last is held, when all is quiet, and is what the entry in the map
amounts to. -/
theorem Inv.shown (h : Inv node m) (hquiet : m.quiet = true)
    (hhead : m.writes.head? = some (.published i)) :
    ∃ e, m.current = some i ∧ m.known? = some e ∧ ∃ b v,
      composeChecked node e.base e.contributions = .ok b ∧
        m.held? node = some (.ofBundle v b) := by
  obtain ⟨c, hc⟩ := h.written _ (List.mem_of_head? hhead)
  have hkept := h.kept i c hc
  rcases hkept.shown hhead with ⟨hpresent, -, hshown⟩ | ⟨-, howes⟩
  · have hi := (hkept.attached hpresent).resolve_right (Machine.not_owes hquiet _)
    refine ⟨c.entry, hi, ?_, hshown⟩
    rw [Machine.known?, hi, Option.bind_some, hc]
    rfl
  · exact absurd howes (Machine.not_owes hquiet _)

/-- There is neither an entry nor a snapshot, or the snapshot is what the entry amounts to,
or it was cleared late. -/
theorem Inv.quiet_cases (h : Inv node m) (hquiet : m.quiet = true) :
    (m.known? = none ∧ m.held? node = none) ∨
    ∃ e b, m.known? = some e ∧ e.isBare = false ∧
      composeChecked node e.base e.contributions = .ok b ∧
      ((∃ v, m.held? node = some (.ofBundle v b)) ∧ ¬m.ClearedLate ∨
        m.held? node = none ∧ m.ClearedLate) := by
  cases hcurrent : m.current with
  | none =>
    refine .inl ⟨by rw [Machine.known?, hcurrent]; rfl, h.hidden fun i hhead => ?_⟩
    obtain ⟨e, hi, -⟩ := h.shown hquiet hhead
    exact absurd (hcurrent.symm.trans hi) nofun
  | some i =>
    obtain ⟨c, hc, hentry, hpresent, hknown, ⟨b, hfit⟩, hpublished⟩ := h.current hquiet hcurrent
    refine .inr ⟨c.entry, b, hentry, hknown, hfit, ?_⟩
    cases hwrites : m.writes with
    | nil =>
      rw [hwrites] at hpublished
      cases hpublished
    | cons w earlier =>
      cases w with
      | published k =>
        obtain ⟨e, -, hentry', b', v, hfit', hheld⟩ :=
          h.shown hquiet (i := k) (by rw [hwrites]; rfl)
        rw [hentry] at hentry'
        cases hentry'
        rw [hfit] at hfit'
        cases hfit'
        refine .inl ⟨⟨v, hheld⟩, ?_⟩
        rintro ⟨_, _, _, -, -, hcleared, -⟩
        rw [hwrites] at hcleared
        cases hcleared
      | cleared k =>
        refine .inr ⟨h.hidden fun k => ?_, i, k, earlier, hcurrent, ?_, hwrites, ?_⟩
        · rw [hwrites]
          nofun
        · rintro rfl
          -- what was cleared is removed, and what is in the map is not
          have hcleared : Write.cleared i ∈ m.writes := hwrites ▸ List.mem_cons_self
          obtain ⟨c', hc', hremoved⟩ := h.written _ hcleared
          rw [hc] at hc'
          cases hc'
          exact Bool.noConfusion (hpresent.symm.trans hremoved)
        · rw [hwrites] at hpublished
          simpa using hpublished

/-- Whoever asked for a deployment and got a version finds it in the map, unless a task that
came after it has overridden it. -/
theorem Inv.deployed (h : Inv node m) (hquiet : m.quiet = true) {v : Option Version}
    (hth : ⟨.deploy d, .done (.ok v)⟩ ∈ m.threads) :
    ∃ c ∈ m.cells, ∃ before after, c.edits = before ++ .deploy node d :: after ∧
      (m.known? = some c.entry ∧ d ∈ c.entry.contributions ∨
        ∃ th ∈ m.threads, (∃ v, th.stage = .done (.ok v)) ∧ th.task.command node ∈ after ∧
          Overrides d (th.task.command node)) := by
  obtain ⟨c, hmem, hedited⟩ := h.warranted _ hth
  obtain ⟨before, after, hedits⟩ := List.append_of_mem hedited
  refine ⟨c, hmem, before, after, hedits, ?_⟩
  rcases Cell.mem_amount hedits with hamount | ⟨command, hafter, hover⟩
  · obtain ⟨i, hc⟩ := List.getElem?_of_mem hmem
    have hkept := h.kept i c hc
    have hpresent : c.removed = false := by
      rw [Bool.eq_false_iff]
      intro hremoved
      have hbare := hkept.spent hremoved
      rw [NodeEntry.isBare, Bool.and_eq_true, List.isEmpty_iff] at hbare
      rw [hbare.2] at hamount
      cases hamount
    have hi := (hkept.attached hpresent).resolve_right (Machine.not_owes hquiet _)
    refine .inl ⟨?_, hkept.serial hpresent ▸ hamount⟩
    rw [Machine.known?, hi, Option.bind_some, hc]
    rfl
  · have hrecorded : command ∈ c.edits := by
      rw [hedits]
      exact List.mem_append_right before (List.mem_cons_of_mem _ hafter)
    obtain ⟨th, hth, hdone, rfl⟩ := h.accounted c hmem command hrecorded
    refine .inr ⟨th, hth, ?_, hafter, hover⟩
    obtain ⟨reply, hreply⟩ := Machine.exists_done hquiet hth
    rw [Thread.HasEdited, hreply] at hdone
    cases reply with
    | ok v => exact ⟨v, hreply⟩
    | error f => cases hdone

/-- When all tasks on a node are done, in whatever order they took their steps, a snapshot is
held exactly when the map has an entry, unless it was cleared late; it is what the entry
amounts to; and a deployment that succeeded is in the entry, unless a task that came after it
on the same entry has overridden it. -/
theorem run_settles (node : NodeId) (tasks : List Task) (schedule : List Nat)
    (hquiet : ((Machine.start tasks).run node schedule).quiet = true) :
    let m := (Machine.start tasks).run node schedule
    ((m.held? node).isSome = true ↔ m.known?.isSome = true ∧ ¬m.ClearedLate) ∧
    (∀ e, m.known? = some e → ∃ b, compose e.base e.contributions = .ok b ∧
      ∀ s, m.held? node = some s → ∃ v, s = .ofBundle v b) ∧
    ∀ d v, ⟨.deploy d, .done (.ok v)⟩ ∈ m.threads →
      ∃ c ∈ m.cells, ∃ before after, c.edits = before ++ .deploy node d :: after ∧
        (m.known? = some c.entry ∧ d ∈ c.entry.contributions ∨
          ∃ th ∈ m.threads, (∃ v, th.stage = .done (.ok v)) ∧ th.task.command node ∈ after ∧
            Overrides d (th.task.command node)) := by
  intro m
  have h : Inv node m := (Inv.start node tasks).run schedule
  refine ⟨?_, fun e he => ?_, fun d v => h.deployed hquiet⟩ <;>
    rcases h.quiet_cases hquiet with ⟨hentry, hheld⟩ | ⟨e', b, hentry, -, hfit, hcases⟩
  · simp [hentry, hheld]
  · rcases hcases with ⟨⟨v, hheld⟩, hlate⟩ | ⟨hheld, hlate⟩ <;> simp [hentry, hheld, hlate]
  · exact absurd (he.symm.trans hentry) nofun
  · rw [he] at hentry
    cases hentry
    refine ⟨b, (composeChecked_eq_ok_iff.1 hfit).1, fun s hs => ?_⟩
    rcases hcases with ⟨⟨v, hheld⟩, -⟩ | ⟨hheld, -⟩ <;> rw [hheld] at hs <;> cases hs
    exact ⟨v, rfl⟩

/-- A contribution of one cluster. -/
def booksContribution : Contribution where
  deploymentId := "books"
  apiName := "books"
  apiVersion := "v1"
  resources := { clusters := [.ofBackend "books-v1-cluster" "books.internal" 8080 .http] }

/-- A removal that has taken the entry out of the map while another deployment makes a new
one, and that clears the cache only then. -/
def lateRemoval : Machine :=
  (Machine.start [.deploy Registry.petsContribution, .remove, .deploy booksContribution]).run
    "edge" [0, 0, 1, 2, 2, 1, 1]

theorem run_settles_lateRemoval :
    lateRemoval.held? "edge" = none ∧ lateRemoval.ClearedLate ∧
      ∃ c ∈ lateRemoval.cells, ∃ before after,
        c.edits = before ++ .deploy "edge" booksContribution :: after ∧
        (lateRemoval.known? = some c.entry ∧ booksContribution ∈ c.entry.contributions ∨
          ∃ th ∈ lateRemoval.threads, (∃ v, th.stage = .done (.ok v)) ∧
            th.task.command "edge" ∈ after ∧
            Overrides booksContribution (th.task.command "edge")) := by
  have hentry : lateRemoval.known?.isSome = true := by decide +kernel
  have hheld : (lateRemoval.held? "edge").isNone = true := by decide +kernel
  have hdeployed : lateRemoval.threads[2]? =
      some ⟨.deploy booksContribution, .done (.ok (some ⟨2⟩))⟩ := by decide +kernel
  have hsettled := run_settles "edge"
    [.deploy Registry.petsContribution, .remove, .deploy booksContribution]
    [0, 0, 1, 2, 2, 1, 1] (by decide +kernel)
  rw [Option.isNone_iff_eq_none] at hheld
  refine ⟨hheld, Classical.byContradiction fun hlate => ?_, ?_⟩
  · have hsome : (lateRemoval.held? "edge").isSome = true := hsettled.1.2 ⟨hentry, hlate⟩
    rw [hheld] at hsome
    cases hsome
  · exact hsettled.2.2 _ _ (List.mem_of_getElem? hdeployed)

/-- An entry in the map does not always have its snapshot in the cache, when all is quiet. -/
theorem not_always_held : ¬∀ (node : NodeId) (tasks : List Task) (schedule : List Nat),
    let m := (Machine.start tasks).run node schedule
    m.quiet = true → (m.known?.isSome = true ↔ (m.held? node).isSome = true) := by
  intro h
  have hheld := (h "edge" [.deploy Registry.petsContribution, .remove, .deploy booksContribution]
    [0, 0, 1, 2, 2, 1, 1] (by decide +kernel)).1 (by decide +kernel)
  exact absurd hheld (by decide +kernel)

end GatewayPlane.Concurrency
