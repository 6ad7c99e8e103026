import GatewayPlane.Proofs.Concurrency.Steps

/-!
# The order that moves keep

While tasks are at work, an entry can be out of step with the map and the cache, but then
there is a thread that is about to set it right. That is what every move keeps, whichever
thread makes it.
-/
namespace GatewayPlane.Concurrency
open Registry (Command)

variable {node : NodeId} {m m' : Machine} {t i j : Nat} {th th' : Thread} {task : Task}
  {c c' : Cell} {d : Contribution}

/-! ## Duties -/

/-- What is still to be done about an entry. -/
inductive Duty where
  /-- An entry that is not in the map is to be marked as removed. -/
  | remove
  /-- An entry that is marked as removed is to be taken out of the map. -/
  | detach
  /-- Something is to come of an entry that is in the map. -/
  | tend
  /-- What was published for an entry that is removed is to be cleared. -/
  | clear

/-- Whether a thread is about to do it. -/
def Duty.LiesWith (i : Nat) : Duty → Thread → Prop
  | remove, th => th.task.takesOut = true ∧ th.stage = .found i
  | detach, th => th.stage = .dropping i ∨ ∃ f, th.stage = .forgetting i f
  | tend, th => th.task.creates = true ∧ th.stage = .found i
  | clear, th => th.stage = .dropping i ∨ th.stage = .clearing i

/-- What is in a list stays in it, or is what makes way. -/
theorem mem_set_or_eq {α : Type} {l : List α} {a b b' : α} (hb : l[t]? = some b) (ha : a ∈ l) :
    a ∈ l.set t b' ∨ a = b := by
  obtain ⟨k, hk⟩ := List.getElem?_of_mem ha
  by_cases htk : t = k
  · rw [← htk, hb] at hk
    exact .inr (Option.some_inj.1 hk).symm
  · exact .inl (List.mem_of_getElem? ((List.getElem?_set_ne htk).trans hk))

namespace Machine

/-- Some thread is about to do it. -/
def Owes (m : Machine) (duty : Duty) (i : Nat) : Prop := ∃ th ∈ m.threads, duty.LiesWith i th

variable {duty : Duty}

theorem Owes.of_goto (hth : m.threads[t]? = some th) (hthreads : m'.threads = m.threads.set t th')
    (h : duty.LiesWith i th') : m'.Owes duty i := by
  obtain ⟨hlt, -⟩ := List.getElem?_eq_some_iff.1 hth
  exact ⟨th', hthreads ▸ List.mem_set hlt th', h⟩

/-- A thread that goes on leaves the duties of the others as they are. -/
theorem Owes.goto (h : m.Owes duty i) (hth : m.threads[t]? = some th)
    (hthreads : m'.threads = m.threads.set t th') (hnot : ¬duty.LiesWith i th) :
    m'.Owes duty i := by
  obtain ⟨other, hmem, hlies⟩ := h
  rcases mem_set_or_eq hth hmem with hmem | rfl
  · exact ⟨other, hthreads ▸ hmem, hlies⟩
  · exact absurd hlies hnot

/-- A thread that has not begun has no duty. -/
theorem Owes.goto_of_ready (h : m.Owes duty i) (hth : m.threads[t]? = some ⟨task, .ready⟩)
    (hthreads : m'.threads = m.threads.set t th') : m'.Owes duty i := by
  refine h.goto hth hthreads fun hlies => ?_
  cases duty <;> simp [Duty.LiesWith] at hlies

end Machine

/-! ## The invariant -/

/-- What the commands that were carried out on an entry come to. -/
def Cell.amount (c : Cell) : NodeEntry := c.edits.foldl (fun e command => command.edit e) {}

/-- How an entry, the map and the cache belong together while tasks are at work. -/
structure Kept (node : NodeId) (m : Machine) (i : Nat) (c : Cell) : Prop where
  sound : c.entry.Sound
  serial : c.removed = false → c.entry = c.amount
  spent : c.removed = true → c.amount.isBare = true
  attached : c.removed = false → m.current = some i ∨ m.Owes .remove i
  detached : c.removed = true → m.current = some i → m.Owes .detach i
  tended : c.removed = false → c.entry.isBare = true → m.current = some i → m.Owes .tend i
  fit : c.removed = false → c.entry.isBare = false →
    (∃ b, composeChecked node c.entry.base c.entry.contributions = .ok b) ∧
      .published i ∈ m.writes
  shown : m.writes.head? = some (.published i) →
    (c.removed = false ∧ c.entry.isBare = false ∧ ∃ b v,
      composeChecked node c.entry.base c.entry.contributions = .ok b ∧
        m.held? node = some (.ofBundle v b)) ∨
    (c.removed = true ∧ m.Owes .clear i)

/-- An entry that is marked as removed is only to be taken out of the map and the cache. -/
theorem Kept.of_removed (hremoved : c.removed = true) (hsound : c.entry.Sound)
    (hspent : c.amount.isBare = true) (hdetached : m.current = some i → m.Owes .detach i)
    (hshown : m.writes.head? = some (.published i) → m.Owes .clear i) : Kept node m i c where
  sound := hsound
  serial := by simp [hremoved]
  spent := fun _ => hspent
  attached := by simp [hremoved]
  detached := fun _ => hdetached
  tended := by simp [hremoved]
  fit := by simp [hremoved]
  shown := fun h => .inr ⟨hremoved, hshown h⟩

/-- A step that is not about an entry leaves it as it belongs. -/
theorem Kept.frame (h : Kept node m i c)
    (hcell : c'.entry = c.entry ∧ c'.removed = c.removed ∧ c'.amount = c.amount)
    (hcurrent : m'.current = some i ↔ m.current = some i)
    (howes : ∀ duty, (duty = .tend → c.removed = false ∧ c.entry.isBare = true) →
      m.Owes duty i → m'.Owes duty i)
    (hwrites : ∀ w ∈ m.writes, w ∈ m'.writes)
    (hhead : m'.writes.head? = some (.published i) →
      m.writes.head? = some (.published i) ∧ m'.held? node = m.held? node) :
    Kept node m' i c' := by
  obtain ⟨hentry, hremoved, hamount⟩ := hcell
  constructor <;> simp only [hentry, hremoved, hamount, hcurrent]
  · exact h.sound
  · exact h.serial
  · exact h.spent
  · exact fun hc => (h.attached hc).imp_right (howes .remove nofun)
  · exact fun hc hi => howes .detach nofun (h.detached hc hi)
  · exact fun hc hbare hi => howes .tend (fun _ => ⟨hc, hbare⟩) (h.tended hc hbare hi)
  · exact fun hc hknown => (h.fit hc hknown).imp_right (hwrites _)
  · intro hshown
    obtain ⟨hshown, hheld⟩ := hhead hshown
    rw [hheld]
    exact (h.shown hshown).imp_right fun ⟨hc, howed⟩ => ⟨hc, howes .clear nofun howed⟩

/-- What has been carried out has been recorded, and what a thread has found is there. -/
def Warranted (node : NodeId) (m : Machine) (th : Thread) : Prop :=
  match th.stage with
  | .ready | .done (.error _) => True
  | .found i => th.task.fault? = none ∧
      (th.task.takesOut = true → i < m.cells.length ∧ m.current ≠ some i)
  | .forgetting i _ => ∃ c, m.cells[i]? = some c ∧ c.removed = true
  | .dropping i | .clearing i =>
      ∃ c, m.cells[i]? = some c ∧ c.removed = true ∧ th.task.command node ∈ c.edits
  | .done (.ok _) => ∃ c ∈ m.cells, th.task.command node ∈ c.edits

/-- Whether a thread has carried out its task on an entry. -/
def Thread.HasEdited (th : Thread) : Prop :=
  match th.stage with
  | .dropping _ | .clearing _ | .done (.ok _) => True
  | .ready | .found _ | .forgetting .. | .done (.error _) => False

/-- The entry in whose name something was written is there, and removed if it was cleared. -/
def Justified (m : Machine) : Write → Prop
  | .published i => ∃ c, m.cells[i]? = some c
  | .cleared i => ∃ c, m.cells[i]? = some c ∧ c.removed = true

structure Inv (node : NodeId) (m : Machine) : Prop where
  kept : ∀ i c, m.cells[i]? = some c → Kept node m i c
  current_lt : ∀ i, m.current = some i → i < m.cells.length
  written : ∀ w ∈ m.writes, Justified m w
  hidden : (∀ i, m.writes.head? ≠ some (.published i)) → m.held? node = none
  warranted : ∀ th ∈ m.threads, Warranted node m th
  accounted : ∀ c ∈ m.cells, ∀ command ∈ c.edits,
    ∃ th ∈ m.threads, th.HasEdited ∧ th.task.command node = command

theorem Inv.start (node : NodeId) (tasks : List Task) : Inv node (Machine.start tasks) where
  kept := nofun
  current_lt := nofun
  written := nofun
  hidden := fun _ => rfl
  warranted := by
    intro th hth
    obtain ⟨task, -, rfl⟩ := List.mem_map.1 hth
    trivial
  accounted := nofun

/-! ## What a move keeps -/

theorem unlock_cell (hc : m.cells[j]? = some c) (h : (m.unlock i).cells[j]? = some c') :
    c'.entry = c.entry ∧ c'.removed = c.removed ∧ c'.amount = c.amount := by
  rw [Machine.unlock, List.getElem?_modify, hc] at h
  cases h
  dsimp only
  split <;> exact ⟨rfl, rfl, rfl⟩

theorem Cell.amount_append {command : Command} {e : NodeEntry} {removed locked : Bool} :
    (Cell.mk e removed locked (c.edits ++ [command])).amount = command.edit c.amount := by
  rw [amount, List.foldl_append]
  rfl

/-- A node that listens is not bare, and listening on the same port changes nothing. -/
theorem listen_edit_eq_self (node : NodeId) {e : NodeEntry} {port : UInt16} (h : e.Sound)
    (hport : e.listenerPort = some port) :
    e.isBare = false ∧ (Command.listen node port).edit e = e := by
  rcases h.base with ⟨-, hnone⟩ | ⟨port', -, hbase, hsome⟩
  · rw [hport] at hnone
    cases hnone
  · rw [hport] at hsome
    cases hsome
    obtain ⟨listenerPort, base, contributions⟩ := e
    subst hport hbase
    exact ⟨rfl, rfl⟩

/-- The entry that the next step of a thread is about. -/
def Machine.concern (m : Machine) : Thread → Option Nat
  | ⟨task, .ready⟩ => if task.takesOut then m.current else none
  | ⟨_, .found i⟩ | ⟨_, .forgetting i _⟩ | ⟨_, .dropping i⟩ | ⟨_, .clearing i⟩ => some i
  | ⟨_, .done _⟩ => none

theorem Duty.LiesWith.concern {duty : Duty} (h : duty.LiesWith i th) : m.concern th = some i := by
  obtain ⟨task, stage⟩ := th
  cases duty with
  | remove | tend =>
    obtain ⟨-, rfl⟩ := h
    rfl
  | detach =>
    obtain rfl | ⟨f, rfl⟩ := h <;> rfl
  | clear =>
    obtain rfl | rfl := h <;> rfl

/-- A step leaves the entries that it is not about as they belong. -/
theorem Kept.elsewhere (h : Kept node m j c) (hc : m.cells[j]? = some c)
    (hth : m.threads[t]? = some th) (helse : m.concern th ≠ some j)
    (hmove : Move node m t th m') (hcell : m'.cells[j]? = some c') : Kept node m' j c' := by
  have howes {m' : Machine} {th' : Thread} (hthreads : m'.threads = m.threads.set t th')
      (duty : Duty) (_ : duty = .tend → c.removed = false ∧ c.entry.isBare = true)
      (howes : m.Owes duty j) : m'.Owes duty j :=
    howes.goto hth hthreads fun hlies => helse hlies.concern
  have hput {i : Nat} {d : Cell} (hij : i ≠ j) (hd : (m.cells.set i d)[j]? = some c') :
      c'.entry = c.entry ∧ c'.removed = c.removed ∧ c'.amount = c.amount := by
    rw [List.getElem?_set_ne hij, hc] at hd
    cases hd
    exact ⟨rfl, rfl, rfl⟩
  have hstays {l : List Cell} (hl : l[j]? = m.cells[j]?) (hd : l[j]? = some c') :
      c'.entry = c.entry ∧ c'.removed = c.removed ∧ c'.amount = c.amount := by
    rw [hl, hc] at hd
    cases hd
    exact ⟨rfl, rfl, rfl⟩
  have hne {i : Nat} (hi : m.concern th = some i) : i ≠ j := fun hij => helse (hij ▸ hi)
  cases hmove with
  | idle => exact h.frame (hstays rfl hcell) .rfl (fun _ _ => id) (fun _ => id) (⟨·, rfl⟩)
  | left _ _ hagrees =>
    exact h.frame (hstays rfl hcell) .rfl (howes rfl) (fun _ => id) (⟨·, hagrees.held? node⟩)
  | fetched => exact h.frame (hstays rfl hcell) .rfl (howes rfl) (fun _ => id) (⟨·, rfl⟩)
  | created _ habsent =>
    have hlt := (List.getElem?_eq_some_iff.1 hc).1
    refine h.frame (hstays (List.getElem?_append_left hlt) hcell) ?_ (howes rfl) (fun _ => id)
      (⟨·, rfl⟩)
    simp [Machine.create, habsent, Nat.ne_of_gt hlt]
  | tookOut hcurrent =>
    exact h.frame (hstays rfl hcell) (by simp [hne hcurrent]) (howes rfl) (fun _ => id) (⟨·, rfl⟩)
  | again _ _ _ hagrees =>
    exact h.frame (hput (hne rfl) hcell) .rfl (howes rfl) (fun _ => id) (⟨·, hagrees.held? node⟩)
  | published =>
    exact h.frame (hput (hne rfl) hcell) .rfl (howes rfl) (fun _ => List.mem_cons_of_mem _)
      (by simp [hne rfl])
  | emptied | marked =>
    exact h.frame (hput (hne rfl) hcell) .rfl (howes rfl) (fun _ => id) (⟨·, rfl⟩)
  | failed _ _ _ hagrees =>
    exact h.frame (hput (hne rfl) hcell) .rfl (howes rfl) (fun _ => id) (⟨·, hagrees.held? node⟩)
  | forgot =>
    exact h.frame (unlock_cell hc hcell) (by simp [hne rfl]) (howes rfl) (fun _ => id) (⟨·, rfl⟩)
  | dropped =>
    exact h.frame (hstays rfl hcell) (by simp [hne rfl]) (howes rfl) (fun _ => id) (⟨·, rfl⟩)
  | cleared =>
    exact h.frame (unlock_cell hc hcell) .rfl (howes rfl) (fun _ => List.mem_cons_of_mem _)
      (by simp)

/-- A task that leaves an entry alone finds it removed, or known. -/
theorem Kept.left {stage : Stage} {p : Publications} (h : Kept node m i c)
    (hth : m.threads[t]? = some ⟨task, .found i⟩) (hstays : task.takesOut = false)
    (hknown : task.creates = true → c.removed = true ∨ c.entry.isBare = false)
    (hagrees : m.published.Agrees p) :
    Kept node ((m.publish p).goto t ⟨task, stage⟩) i c := by
  refine h.frame ⟨rfl, rfl, rfl⟩ .rfl (fun duty htend howes => ?_) (fun _ => id)
    (⟨·, hagrees.held? node⟩)
  refine howes.goto hth rfl fun hlies => ?_
  cases duty with
  | remove => exact Bool.noConfusion (hstays.symm.trans hlies.1)
  | tend =>
    obtain ⟨hpresent, hbare⟩ := htend rfl
    rcases hknown hlies.1 with hremoved | hknown
    · exact Bool.noConfusion (hpresent.symm.trans hremoved)
    · exact Bool.noConfusion (hbare.symm.trans hknown)
  | detach | clear => simp [Duty.LiesWith] at hlies

/-- An entry that a removal takes out of the map is left for it to mark. -/
theorem Kept.tookOut (h : Kept node m i c) (hth : m.threads[t]? = some ⟨.remove, .ready⟩) :
    Kept node ((m.takeOut i).goto t ⟨.remove, .found i⟩) i c where
  sound := h.sound
  serial := h.serial
  spent := h.spent
  attached := fun _ => .inr (.of_goto hth rfl ⟨rfl, rfl⟩)
  detached := by simp
  tended := by simp
  fit := h.fit
  shown := fun hshown => (h.shown hshown).imp_right
    fun ⟨hremoved, hclear⟩ => ⟨hremoved, hclear.goto_of_ready hth rfl⟩

theorem Kept.published {b : Bundle} {v : Version} {p : Publications} (h : Kept node m i c)
    (hth : m.threads[t]? = some ⟨task, .found i⟩) (hpresent : c.removed = false)
    (hstays : task.takesOut = false) (hpermitted : (task.command node).Permitted c.entry)
    (hknown : ((task.command node).edit c.entry).isBare = false)
    (hfit : composeChecked node ((task.command node).edit c.entry).base
      ((task.command node).edit c.entry).contributions = .ok b)
    (hgains : m.published.Gains node (.ofBundle v b) p) :
    Kept node ((((m.log (.published i)).publish p).put i { c with
      entry := (task.command node).edit c.entry
      edits := c.edits ++ [task.command node] }).goto t ⟨task, .done (.ok (some v))⟩) i { c with
        entry := (task.command node).edit c.entry
        edits := c.edits ++ [task.command node] } where
  sound := Command.edit_sound h.sound hpermitted
  serial := fun _ => by rw [Cell.amount_append, ← h.serial hpresent]
  spent := by simp [hpresent]
  attached := fun _ => (h.attached hpresent).imp_right fun hremove =>
    hremove.goto hth rfl fun hlies => Bool.noConfusion (hstays.symm.trans hlies.1)
  detached := by simp [hpresent]
  tended := by simp [hknown]
  fit := fun _ _ => ⟨⟨b, hfit⟩, List.mem_cons_self⟩
  shown := fun _ => .inl ⟨hpresent, hknown, b, v, hfit, hgains.held?.trans (if_pos rfl)⟩

/-- A new entry is left for the task that made it. -/
theorem Kept.created (h : Inv node m) (hth : m.threads[t]? = some ⟨task, .ready⟩)
    (hcreates : task.creates = true) :
    Kept node (m.create.goto t ⟨task, .found m.cells.length⟩) m.cells.length {} where
  sound := .empty
  serial := fun _ => rfl
  spent := nofun
  attached := fun _ => .inl rfl
  detached := nofun
  tended := fun _ _ _ => .of_goto hth rfl ⟨hcreates, rfl⟩
  fit := nofun
  shown := by
    intro hshown
    obtain ⟨c, hc⟩ := h.written _ (List.mem_of_head? hshown)
    exact absurd (List.getElem?_eq_some_iff.1 hc).1 (Nat.lt_irrefl _)

/-- A step leaves the entry that it is about as it belongs. -/
theorem Kept.here (h : Kept node m j c) (hc : m.cells[j]? = some c)
    (hth : m.threads[t]? = some th) (hhere : m.concern th = some j)
    (hwarranted : Warranted node m th) (hmove : Move node m t th m')
    (hcell : m'.cells[j]? = some c') : Kept node m' j c' := by
  have hset {d : Cell} (hd : (m.cells.set j d)[j]? = some c') : c' = d := by
    rw [List.getElem?_set_self (List.getElem?_eq_some_iff.1 hc).1] at hd
    exact (Option.some_inj.1 hd).symm
  have hfound {c₀ : Cell} (hc₀ : m.cells[j]? = some c₀) : c₀ = c :=
    Option.some_inj.1 (hc₀.symm.trans hc)
  cases hmove with
  | idle =>
    cases hfound hcell
    exact h
  | left hknown _ hagrees =>
    cases hfound hcell
    obtain rfl | ⟨i, rfl, hstays, hknown⟩ := hknown
    · exact h.frame ⟨rfl, rfl, rfl⟩ .rfl (fun _ _ howes => howes.goto_of_ready hth rfl)
        (fun _ => id) (⟨·, hagrees.held? node⟩)
    · cases hhere
      exact h.left hth hstays (fun hcreates => hknown _ hcreates hc) hagrees
  | fetched _ _ hstays => simp [Machine.concern, hstays] at hhere
  | created _ habsent => simp [Machine.concern, habsent] at hhere
  | @tookOut i hcurrent =>
    obtain rfl : i = j := Option.some_inj.1 (hcurrent.symm.trans hhere)
    cases hfound hcell
    exact h.tookOut hth
  | again hc₀ hpresent hsame hagrees =>
    cases hhere
    cases hfound hc₀
    cases hset hcell
    obtain ⟨hknown, hedit⟩ := listen_edit_eq_self node h.sound hsame
    refine h.frame ⟨rfl, rfl, ?_⟩ .rfl (fun duty htend howes => ?_) (fun _ => id)
      (⟨·, hagrees.held? node⟩)
    · rw [Cell.amount_append, ← h.serial hpresent, hedit]
    · refine howes.goto hth rfl fun hlies => ?_
      cases duty with
      | tend => exact Bool.noConfusion (hknown.symm.trans (htend rfl).2)
      | remove | detach | clear => simp [Duty.LiesWith, Task.takesOut] at hlies
  | published hc₀ hpresent hstays hpermitted hknown hfit hgains =>
    cases hhere
    cases hfound hc₀
    cases hset hcell
    exact h.published hth hpresent hstays hpermitted hknown hfit hgains
  | emptied hc₀ hpresent hpermitted hbare =>
    cases hhere
    cases hfound hc₀
    cases hset hcell
    refine .of_removed rfl (Command.edit_sound h.sound hpermitted) ?_ ?_ ?_
    · rw [Cell.amount_append, ← h.serial hpresent]
      exact hbare
    · exact fun _ => .of_goto hth rfl (.inl rfl)
    · exact fun _ => .of_goto hth rfl (.inl rfl)
  | marked hc₀ =>
    cases hhere
    cases hfound hc₀
    cases hset hcell
    refine .of_removed rfl h.sound ?_ (fun hcurrent => ?_) fun _ => .of_goto hth rfl (.inr rfl)
    · rw [Cell.amount_append]
      rfl
    · -- the removal took it out of the map before it asked for the lock
      exact absurd hcurrent (hwarranted.2 rfl).2
  | failed hc₀ hpresent hbare =>
    cases hhere
    cases hfound hc₀
    cases hset hcell
    refine .of_removed rfl h.sound ?_ ?_ fun hshown => ?_
    · exact congrArg NodeEntry.isBare (h.serial hpresent) ▸ hbare
    · exact fun _ => .of_goto hth rfl (.inr ⟨_, rfl⟩)
    · -- nothing has been published for an entry that is still bare
      rcases h.shown hshown with ⟨-, hknown, -⟩ | ⟨hremoved, -⟩
      · exact Bool.noConfusion (hknown.symm.trans hbare)
      · exact Bool.noConfusion (hpresent.symm.trans hremoved)
  | forgot =>
    cases hhere
    obtain ⟨c₀, hc₀, hremoved⟩ := hwarranted
    cases hfound hc₀
    obtain ⟨hentry, hremoved', hamount⟩ := unlock_cell hc hcell
    refine .of_removed (hremoved'.trans hremoved) (hentry ▸ h.sound) (hamount ▸ h.spent hremoved)
      (by simp) fun hshown => ?_
    rcases h.shown hshown with ⟨hpresent, -⟩ | ⟨-, hclear⟩
    · exact Bool.noConfusion (hpresent.symm.trans hremoved)
    · exact hclear.goto hth rfl (by simp [Duty.LiesWith])
  | dropped =>
    cases hhere
    obtain ⟨c₀, hc₀, hremoved, -⟩ := hwarranted
    cases hfound hc₀
    cases hfound hcell
    exact .of_removed hremoved h.sound (h.spent hremoved) (by simp)
      fun _ => .of_goto hth rfl (.inr rfl)
  | cleared =>
    cases hhere
    obtain ⟨c₀, hc₀, hremoved, -⟩ := hwarranted
    cases hfound hc₀
    obtain ⟨hentry, hremoved', hamount⟩ := unlock_cell hc hcell
    refine .of_removed (hremoved'.trans hremoved) (hentry ▸ h.sound) (hamount ▸ h.spent hremoved)
      (fun hcurrent => ?_) (by simp)
    exact (h.detached hremoved hcurrent).goto hth rfl (by simp [Duty.LiesWith])

/-- An entry that a step has made is as it belongs. -/
theorem Kept.fresh (h : Inv node m) (hj : m.cells[j]? = none) (hth : m.threads[t]? = some th)
    (hmove : Move node m t th m') (hcell : m'.cells[j]? = some c') : Kept node m' j c' := by
  have hle := List.getElem?_eq_none_iff.1 hj
  cases hmove with
  | created _ _ hcreates =>
    obtain ⟨rfl, rfl⟩ : j = m.cells.length ∧ c' = {} := by
      rw [Machine.goto_cells, Machine.create, List.getElem?_append_right hle] at hcell
      obtain ⟨hlt, hget⟩ := List.getElem?_eq_some_iff.1 hcell
      rw [List.length_singleton] at hlt
      exact ⟨by omega, by simpa using hget.symm⟩
    exact .created h hth hcreates
  | idle | left | fetched | tookOut | again | published | emptied | marked | failed | forgot
  | dropped | cleared =>
    have hlt := (List.getElem?_eq_some_iff.1 hcell).1
    exact absurd hlt (by simpa [Machine.unlock] using hle)

theorem Kept.move (h : Inv node m) (hth : m.threads[t]? = some th) (hmove : Move node m t th m')
    (hcell : m'.cells[j]? = some c') : Kept node m' j c' := by
  cases hc : m.cells[j]? with
  | none => exact .fresh h hc hth hmove hcell
  | some c =>
    by_cases hhere : m.concern th = some j
    · have hwarranted := h.warranted th (List.mem_of_getElem? hth)
      exact (h.kept j c hc).here hc hth hhere hwarranted hmove hcell
    · exact (h.kept j c hc).elsewhere hc hth hhere hmove hcell

/-! ## What has been carried out -/

/-- What a thread has found and carried out is there whatever the others do. -/
theorem Warranted.grows (h : Warranted node m th) (hgrows : Grows m m') :
    Warranted node m' th := by
  obtain ⟨task, stage⟩ := th
  cases stage with
  | ready => trivial
  | found i =>
    refine h.imp_right fun hfound htakes => ?_
    obtain ⟨hlt, haway⟩ := hfound htakes
    exact ⟨hgrows.lt hlt, hgrows.away i hlt haway⟩
  | forgetting i f =>
    obtain ⟨c, hc, hremoved⟩ := h
    obtain ⟨c', hc', hremoved', -⟩ := hgrows.cells i c hc
    exact ⟨c', hc', hremoved' hremoved⟩
  | dropping i | clearing i =>
    obtain ⟨c, hc, hremoved, hedited⟩ := h
    obtain ⟨c', hc', hremoved', hedits⟩ := hgrows.cells i c hc
    exact ⟨c', hc', hremoved' hremoved, hedits hedited⟩
  | done reply =>
    cases reply with
    | error f => trivial
    | ok v =>
      obtain ⟨c, hc, hedited⟩ := h
      obtain ⟨i, hi⟩ := List.getElem?_of_mem hc
      obtain ⟨c', hc', -, hedits⟩ := hgrows.cells i c hi
      exact ⟨c', List.mem_of_getElem? hc', hedits hedited⟩

theorem Justified.grows {w : Write} (h : Justified m w) (hgrows : Grows m m') :
    Justified m' w := by
  cases w with
  | published i =>
    obtain ⟨c, hc⟩ := h
    obtain ⟨c', hc', -⟩ := hgrows.cells i c hc
    exact ⟨c', hc'⟩
  | cleared i =>
    obtain ⟨c, hc, hremoved⟩ := h
    obtain ⟨c', hc', hremoved', -⟩ := hgrows.cells i c hc
    exact ⟨c', hc', hremoved' hremoved⟩

/-- What a step means for the thread that takes it, and for the records. -/
structure Goes (node : NodeId) (m m' : Machine) (th th' : Thread) : Prop where
  task : th'.task = th.task
  warranted : Warranted node m' th'
  edited : th.HasEdited → th'.HasEdited
  recorded : ∀ c' ∈ m'.cells, ∀ command ∈ c'.edits,
    (∃ c ∈ m.cells, command ∈ c.edits) ∨ command = th.task.command node ∧ th'.HasEdited

theorem recorded_of_set {P : Command → Prop} (hc : m.cells[i]? = some c)
    (hedits : ∀ command ∈ c'.edits, command ∈ c.edits ∨ P command) :
    ∀ d ∈ m.cells.set i c', ∀ command ∈ d.edits,
      (∃ c ∈ m.cells, command ∈ c.edits) ∨ P command := by
  intro d hd command hcommand
  rcases List.mem_or_eq_of_mem_set hd with hd | rfl
  · exact .inl ⟨d, hd, hcommand⟩
  · exact (hedits command hcommand).imp_left fun h => ⟨c, List.mem_of_getElem? hc, h⟩

theorem recorded_of_unlock {P : Command → Prop} :
    ∀ d ∈ (m.unlock i).cells, ∀ command ∈ d.edits,
      (∃ c ∈ m.cells, command ∈ c.edits) ∨ P command := by
  intro d hd command hcommand
  obtain ⟨j, hj⟩ := List.getElem?_of_mem hd
  rw [Machine.unlock, List.getElem?_modify] at hj
  cases hc : m.cells[j]? with
  | none =>
    rw [hc] at hj
    cases hj
  | some c =>
    rw [hc] at hj
    cases hj
    refine .inl ⟨c, List.mem_of_getElem? hc, ?_⟩
    dsimp only at hcommand
    split at hcommand <;> exact hcommand

theorem Move.goes (h : Inv node m) (hth : m.threads[t]? = some th)
    (hmove : Move node m t th m') :
    ∃ th', m'.threads = m.threads.set t th' ∧ Goes node m m' th th' := by
  have hwarranted := h.warranted th (List.mem_of_getElem? hth)
  have hgrown := hwarranted.grows hmove.grows
  have hstill {P : Command → Prop} : ∀ c' ∈ m.cells, ∀ command ∈ c'.edits,
      (∃ c ∈ m.cells, command ∈ c.edits) ∨ P command :=
    fun c' hc' _ hcommand => .inl ⟨c', hc', hcommand⟩
  have hput {i : Nat} {c c' : Cell} (hc : m.cells[i]? = some c) :
      (m.cells.set i c')[i]? = some c' :=
    List.getElem?_set_self (List.getElem?_eq_some_iff.1 hc).1
  have hlast (l : List Command) (command : Command) : command ∈ l ++ [command] :=
    List.mem_append_right l List.mem_cons_self
  have hadds {l : List Command} {command : Command} {P : Prop} (hP : P) :
      ∀ x ∈ l ++ [command], x ∈ l ∨ x = command ∧ P := by
    intro x hx
    rw [List.mem_append, List.mem_singleton] at hx
    exact hx.imp_right fun h => ⟨h, hP⟩
  cases hmove with
  | idle =>
    obtain ⟨hlt, hget⟩ := List.getElem?_eq_some_iff.1 hth
    exact ⟨th, by rw [← hget, List.set_getElem_self], rfl, hwarranted, id, hstill⟩
  | left hknown hends =>
    refine ⟨_, rfl, rfl, ?_, ?_, hstill⟩
    · obtain rfl | ⟨f, rfl⟩ := hends <;> trivial
    · obtain rfl | ⟨i, rfl, -⟩ := hknown <;> nofun
  | fetched hvalid _ hstays =>
    exact ⟨_, rfl, rfl, ⟨hvalid, by simp [hstays]⟩, nofun, hstill⟩
  | tookOut hcurrent =>
    exact ⟨_, rfl, rfl, ⟨rfl, fun _ => ⟨h.current_lt _ hcurrent, by simp⟩⟩, nofun, hstill⟩
  | created hvalid _ hcreates =>
    refine ⟨_, rfl, rfl, ⟨hvalid, by simp [Task.takesOut_of_creates hcreates]⟩, nofun, ?_⟩
    intro c' hc'
    rw [Machine.goto_cells, Machine.create, List.mem_append, List.mem_singleton] at hc'
    obtain hc' | rfl := hc'
    · exact hstill c' hc'
    · nofun
  | again hc | published hc =>
    exact ⟨_, rfl, rfl, ⟨_, List.mem_of_getElem? (hput hc), hlast _ _⟩, nofun,
      recorded_of_set hc (hadds trivial)⟩
  | emptied hc | marked hc =>
    exact ⟨_, rfl, rfl, ⟨_, hput hc, rfl, hlast _ _⟩, nofun, recorded_of_set hc (hadds trivial)⟩
  | failed hc =>
    exact ⟨_, rfl, rfl, ⟨_, hput hc, rfl⟩, nofun, recorded_of_set hc fun _ => .inl⟩
  | forgot => exact ⟨_, rfl, rfl, trivial, nofun, recorded_of_unlock⟩
  | dropped => exact ⟨_, rfl, rfl, hgrown, id, hstill⟩
  | cleared =>
    obtain ⟨c', hc', -, hedited⟩ := hgrown
    exact ⟨_, rfl, rfl, ⟨c', List.mem_of_getElem? hc', hedited⟩, id, recorded_of_unlock⟩

/-- What a step does to the cache, and what of it is recorded. -/
theorem Move.writes (hwarranted : Warranted node m th) (hmove : Move node m t th m') :
    m'.writes = m.writes ∧ m'.held? node = m.held? node ∨
    ∃ w, m'.writes = w :: m.writes ∧ Justified m w ∧
      ((∃ i, w = .published i) ∨ m'.held? node = none) := by
  cases hmove with
  | idle | fetched | created | tookOut | emptied | marked | forgot | dropped =>
    exact .inl ⟨rfl, rfl⟩
  | left _ _ hagrees | again _ _ _ hagrees | failed _ _ _ hagrees =>
    exact .inl ⟨rfl, hagrees.held? node⟩
  | published hc => exact .inr ⟨_, rfl, ⟨_, hc⟩, .inl ⟨_, rfl⟩⟩
  | cleared hloses =>
    obtain ⟨c, hc, hremoved, -⟩ := hwarranted
    exact .inr ⟨_, rfl, ⟨c, hc, hremoved⟩, .inr (hloses.held?.trans (if_pos rfl))⟩

theorem Move.current (hmove : Move node m t th m') (hi : m'.current = some i) :
    m.current = some i ∨ i < m'.cells.length := by
  cases hmove with
  | idle | left | fetched | again | published | emptied | marked | failed | cleared => exact .inl hi
  | created =>
    cases hi
    exact .inr (by simp [Machine.create])
  | tookOut | forgot | dropped =>
    rw [Machine.goto_current] at hi
    exact .inl (Machine.takeOut_current_eq_some_iff.1 hi).2

theorem Inv.move (h : Inv node m) (hth : m.threads[t]? = some th) (hmove : Move node m t th m') :
    Inv node m' := by
  have hgrows := hmove.grows
  have hmem := List.mem_of_getElem? hth
  obtain ⟨th', hthreads, hgoes⟩ := hmove.goes h hth
  constructor
  · exact fun j c' hc' => .move h hth hmove hc'
  · intro i hi
    exact (hmove.current hi).elim (fun hi => hgrows.lt (h.current_lt i hi)) id
  · intro w hw
    rcases hmove.writes (h.warranted th hmem) with ⟨hwrites, -⟩ | ⟨w', hwrites, hjust, -⟩ <;>
      rw [hwrites] at hw
    · exact (h.written w hw).grows hgrows
    · rcases List.mem_cons.1 hw with rfl | hw
      · exact hjust.grows hgrows
      · exact (h.written w hw).grows hgrows
  · intro hhead
    rcases hmove.writes (h.warranted th hmem) with ⟨hwrites, hheld⟩ | ⟨w, hwrites, -, hnew⟩ <;>
      rw [hwrites] at hhead
    · exact hheld.trans (h.hidden hhead)
    · rcases hnew with ⟨i, rfl⟩ | hheld
      · exact absurd rfl (hhead i)
      · exact hheld
  · intro other hother
    rw [hthreads] at hother
    rcases List.mem_or_eq_of_mem_set hother with hother | rfl
    · exact (h.warranted other hother).grows hgrows
    · exact hgoes.warranted
  · have hthread : th' ∈ m'.threads :=
      hthreads ▸ List.mem_set (List.getElem?_eq_some_iff.1 hth).1 th'
    intro c' hc' command hcommand
    rcases hgoes.recorded c' hc' command hcommand with ⟨c, hc, hcommand⟩ | ⟨rfl, hedited⟩
    · obtain ⟨other, hother, hedited, rfl⟩ := h.accounted c hc command hcommand
      rcases mem_set_or_eq hth hother with hother | rfl
      · exact ⟨other, hthreads ▸ hother, hedited, rfl⟩
      · exact ⟨th', hthread, hgoes.edited hedited, by rw [hgoes.task]⟩
    · exact ⟨th', hthread, hedited, by rw [hgoes.task]⟩

/-! ## Runs -/

theorem Inv.step (h : Inv node m) (t : Nat) : Inv node (m.step node t) := by
  cases hth : m.threads[t]? with
  | none => rwa [Machine.step, hth]
  | some th =>
    refine h.move hth (Machine.step_move hth fun i hstage => ?_)
    have hwarranted := h.warranted th (List.mem_of_getElem? hth)
    rw [Warranted, hstage] at hwarranted
    exact hwarranted.1

theorem Inv.run (h : Inv node m) (schedule : List Nat) : Inv node (m.run node schedule) := by
  induction schedule generalizing m with
  | nil => exact h
  | cons t rest ih => exact ih (h.step t)

end GatewayPlane.Concurrency
