/-!
# Chains of checks

When a chain of checks that may fail comes to its end, and what a fold that may fail
keeps on its way.
-/
namespace GatewayPlane.Checks

variable {ε α β : Type}

instance decidableEqExcept [DecidableEq ε] [DecidableEq α] : DecidableEq (Except ε α)
  | .ok a, .ok b => decidable_of_iff (a = b) ⟨congrArg _, Except.ok.inj⟩
  | .error e, .error f => decidable_of_iff (e = f) ⟨congrArg _, Except.error.inj⟩
  | .ok _, .error _ => isFalse nofun
  | .error _, .ok _ => isFalse nofun

theorem bind_eq_ok {x : Except ε α} {f : α → Except ε β} {b : β} :
    x >>= f = .ok b ↔ ∃ a, x = .ok a ∧ f a = .ok b := by
  cases x with
  | error e => simp [bind, Except.bind]
  | ok a => simp [bind, Except.bind]

theorem map_eq_ok {x : Except ε α} {f : α → β} {b : β} :
    x.map f = .ok b ↔ ∃ a, x = .ok a ∧ f a = b := by
  cases x <;> simp [Except.map]

theorem exists_bind_eq_ok {x : Except ε α} {f : α → Except ε β} :
    (∃ b, x >>= f = .ok b) ↔ ∃ a, x = .ok a ∧ ∃ b, f a = .ok b := by
  simp only [bind_eq_ok]
  exact ⟨fun ⟨b, a, hx, hf⟩ => ⟨a, hx, b, hf⟩, fun ⟨a, hx, b, hf⟩ => ⟨b, a, hx, hf⟩⟩

@[simp] theorem pure_eq_ok {a b : α} : (pure a : Except ε α) = .ok b ↔ a = b := by
  simp [pure, Except.pure]

@[simp] theorem throw_ne_ok {e : ε} {a : α} : (throw e : Except ε α) ≠ .ok a := by
  simp [throw, throwThe, MonadExceptOf.throw]

@[simp] theorem map_throw {e : ε} {f : α → β} : f <$> (throw e : Except ε α) = throw e := rfl

theorem exists_eq_error_iff {x : Except ε α} : (∃ e, x = .error e) ↔ ¬∃ a, x = .ok a := by
  cases x <;> simp

/-- The first check in a chain does nothing but succeed. -/
theorem seq_eq_ok {x : Except ε Unit} {y : Unit → Except ε β} {b : β} :
    x >>= y = .ok b ↔ x = .ok () ∧ y () = .ok b := by
  rw [bind_eq_ok]
  exact ⟨fun ⟨_, hx, hy⟩ => ⟨hx, hy⟩, fun ⟨hx, hy⟩ => ⟨(), hx, hy⟩⟩

/-- A chain that is given up when something holds. -/
theorem ite_throw_eq_ok {c : Prop} [Decidable c] {e : ε} {next : α → Except ε β}
    {x : Except ε β} {b : β} :
    (if c then throw e >>= next else x) = .ok b ↔ ¬c ∧ x = .ok b := by
  by_cases h : c
  · rw [if_pos h]
    exact iff_of_false nofun fun hx => hx.1 h
  · rw [if_neg h]
    exact (and_iff_right h).symm

theorem toOption_eq_some {x : Except ε α} {a : α} : x.toOption = some a ↔ x = .ok a := by
  cases x <;> simp [Except.toOption]

theorem mapError_eq_ok {δ : Type} {x : Except ε α} {f : ε → δ} {a : α} :
    x.mapError f = .ok a ↔ x = .ok a := by
  cases x with
  | error e => exact iff_of_false nofun nofun
  | ok b =>
    change (.ok b : Except δ α) = .ok a ↔ _
    simp only [Except.ok.injEq]

/-- A loop that checks each member of a list succeeds when every member passes. -/
theorem forIn_eq_ok {P : α → Prop} {l : List α} {body : α → Unit → Except ε (ForInStep Unit)}
    (hbody : ∀ a next, body a () = .ok next ↔ P a ∧ .yield () = next) :
    forIn l () body = .ok () ↔ ∀ a ∈ l, P a := by
  induction l with
  | nil => simp
  | cons a rest ih =>
    rw [List.forIn_cons, bind_eq_ok, List.forall_mem_cons, ← ih]
    constructor
    · rintro ⟨next, hfirst, hrest⟩
      obtain ⟨hpass, rfl⟩ := (hbody a next).1 hfirst
      exact ⟨hpass, hrest⟩
    · rintro ⟨hpass, hrest⟩
      exact ⟨.yield (), (hbody a _).2 ⟨hpass, rfl⟩, hrest⟩

theorem mapM_eq_ok {f : α → Except ε β} {l : List α} {bs : List β} (h : l.mapM f = .ok bs) :
    (∀ a ∈ l, ∃ b, f a = .ok b) ∧ ∀ b, b ∈ bs ↔ ∃ a ∈ l, f a = .ok b := by
  induction l generalizing bs with
  | nil =>
    cases h
    simp
  | cons a rest ih =>
    rw [List.mapM_cons, bind_eq_ok] at h
    obtain ⟨b, hb, h⟩ := h
    obtain ⟨bs', hbs', h⟩ := bind_eq_ok.1 h
    cases h
    obtain ⟨hall, hmem⟩ := ih hbs'
    refine ⟨List.forall_mem_cons.2 ⟨⟨b, hb⟩, hall⟩, fun b' => ?_⟩
    simp [hmem, hb, eq_comm]

theorem exists_mapM_eq_ok {f : α → Except ε β} {l : List α}
    (h : ∀ a ∈ l, ∃ b, f a = .ok b) : ∃ bs, l.mapM f = .ok bs := by
  induction l with
  | nil => exact ⟨[], rfl⟩
  | cons a rest ih =>
    obtain ⟨⟨b, hb⟩, hrest⟩ := List.forall_mem_cons.1 h
    obtain ⟨bs, hbs⟩ := ih hrest
    exact ⟨b :: bs, by simp [List.mapM_cons, hb, hbs, bind, Except.bind, pure, Except.pure]⟩

theorem foldlM_keeps {P : β → Prop} {f : β → α → Except ε β} {l : List α} {b b' : β}
    (hstep : ∀ b a b', P b → f b a = .ok b' → P b') (hb : P b)
    (h : l.foldlM f b = .ok b') : P b' := by
  induction l generalizing b with
  | nil =>
    cases h
    exact hb
  | cons a rest ih =>
    rw [List.foldlM_cons, bind_eq_ok] at h
    obtain ⟨b₁, hfirst, hrest⟩ := h
    exact ih (hstep b a b₁ hb hfirst) hrest

section Accumulating
variable {γ : Type} {f : β → α → Except ε β} {g : α → List γ} {I : List γ → β → Prop}

/-- What a fold keeps about all that it has seen so far. -/
theorem foldlM_accumulates
    (hstep : ∀ seen b a b', I seen b → f b a = .ok b' → I (seen ++ g a) b')
    {l : List α} {seen : List γ} {b b' : β} (hb : I seen b) (h : l.foldlM f b = .ok b') :
    I (seen ++ l.flatMap g) b' := by
  induction l generalizing seen b with
  | nil =>
    cases h
    rwa [List.flatMap_nil, List.append_nil]
  | cons a rest ih =>
    rw [List.foldlM_cons, bind_eq_ok] at h
    obtain ⟨b₁, hfirst, hrest⟩ := h
    rw [List.flatMap_cons, ← List.append_assoc]
    exact ih (hstep seen b a b₁ hb hfirst) hrest

/-- A fold succeeds when all that it sees fits together, if each step tells whether what is
new fits with what was seen before. -/
theorem exists_foldlM_iff {P : List γ → Prop} (hinitial : ∀ xs ys, P (xs ++ ys) → P xs)
    (hstep : ∀ seen b a b', I seen b → f b a = .ok b' → I (seen ++ g a) b')
    {l : List α} (hnext : ∀ seen b, ∀ a ∈ l, I seen b → P seen →
      ((∃ b', f b a = .ok b') ↔ P (seen ++ g a)))
    {seen : List γ} {b : β} (hb : I seen b) (hseen : P seen) :
    (∃ b', l.foldlM f b = .ok b') ↔ P (seen ++ l.flatMap g) := by
  induction l generalizing seen b with
  | nil =>
    rw [List.flatMap_nil, List.append_nil]
    exact iff_of_true ⟨b, rfl⟩ hseen
  | cons a rest ih =>
    have hrest (seen : List γ) (b : β) (a' : α) (ha' : a' ∈ rest) :=
      hnext seen b a' (List.mem_cons_of_mem a ha')
    simp only [List.foldlM_cons, exists_bind_eq_ok, List.flatMap_cons, ← List.append_assoc]
    constructor
    · rintro ⟨b₁, hfirst, hlater⟩
      have hfit := (hnext seen b a List.mem_cons_self hb hseen).1 ⟨b₁, hfirst⟩
      exact (ih hrest (hstep seen b a b₁ hb hfirst) hfit).1 hlater
    · intro hall
      have hfit := hinitial _ _ hall
      obtain ⟨b₁, hfirst⟩ := (hnext seen b a List.mem_cons_self hb hseen).2 hfit
      exact ⟨b₁, hfirst, (ih hrest (hstep seen b a b₁ hb hfirst) hfit).2 hall⟩

end Accumulating

end GatewayPlane.Checks
