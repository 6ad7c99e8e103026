import GatewayPlane.Json.Parser
import GatewayPlane.Json.Printer
import GatewayPlane.Proofs.Text.Digits
import Mathlib.Data.List.TakeWhile

/-!
# Numbers and strings in JSON text

The text of a number or a string is read back as it. A number ends where something closes it,
and is read alike before all that may do so.
-/
namespace GatewayPlane.Json

/-- Whether what follows a value ends it: nothing, or the next sign of the list it stands in. -/
def Closes (rest : List Char) : Prop := ∀ c ∈ rest.head?, c = ',' ∨ c = ']' ∨ c = '\x7d'

theorem closes_nil : Closes [] := nofun

theorem Closes.head_not_digit {rest : List Char} (h : Closes rest) :
    ∀ c ∈ rest.head?, c.isDigit = false := by
  intro c hc
  rcases h c hc with rfl | rfl | rfl <;> rfl

/-! ## Numbers -/

variable {s t rest : List Char}

theorem readDigits_append {digits : List Char} (h : readDigits s = some (digits, t))
    (hrest : Closes rest) : readDigits (s ++ rest) = some (digits, t ++ rest) := by
  rw [readDigits] at h ⊢
  rw [Text.takeWhile_append_of_head? hrest.head_not_digit,
    Text.dropWhile_append_of_head? hrest.head_not_digit]
  cases hdigits : s.takeWhile Char.isDigit with
  | nil =>
    rw [hdigits] at h
    cases h
  | cons c later =>
    rw [hdigits] at h
    cases h
    rfl

theorem Closes.ne_of_head? (hrest : Closes rest) {c : Char} {later : List Char}
    (h : rest = c :: later) : c = ',' ∨ c = ']' ∨ c = '\x7d' :=
  hrest c (h ▸ rfl)

theorem readFraction_append {fraction : Option (List Char)}
    (h : readFraction s = some (fraction, t)) (hrest : Closes rest) :
    readFraction (s ++ rest) = some (fraction, t ++ rest) := by
  unfold readFraction at h
  split at h
  · next later =>
    obtain ⟨⟨digits, after⟩, hdigits, heq⟩ := Option.map_eq_some_iff.1 h
    cases heq
    rw [List.cons_append, readFraction, readDigits_append hdigits hrest]
    rfl
  · next hother =>
    cases h
    unfold readFraction
    split
    · next later heq =>
      cases s with
      | nil =>
        rcases hrest.ne_of_head? heq with h | h | h <;> cases h
      | cons c s' =>
        cases heq
        exact absurd rfl (hother s')
    · rfl

/-- The sign of an exponent, and what follows it. -/
def exponentSign (s : List Char) : Bool × List Char :=
  match s with
  | '-' :: rest => (true, rest)
  | '+' :: rest => (false, rest)
  | _ => (false, s)

theorem readExponent_cons (c : Char) (s : List Char) :
    readExponent (c :: s) =
      if (c == 'e' || c == 'E') = true then
        (readDigits (exponentSign s).2).map fun d =>
          let n : Int := Text.digitsValue 10 d.1
          (some (if (exponentSign s).1 = true then -n else n), d.2)
      else some (none, c :: s) := by
  unfold readExponent exponentSign
  rfl

theorem exponentSign_append (hs : s ≠ []) :
    exponentSign (s ++ rest) = ((exponentSign s).1, (exponentSign s).2 ++ rest) := by
  obtain ⟨c, later, rfl⟩ := List.exists_cons_of_ne_nil hs
  rw [List.cons_append]
  by_cases hminus : c = '-'
  · rw [hminus]
    rfl
  by_cases hplus : c = '+'
  · rw [hplus]
    rfl
  have hother (l : List Char) : exponentSign (c :: l) = (false, c :: l) := by
    unfold exponentSign
    split
    · next heq => exact absurd (List.cons.inj heq).1 hminus
    · next heq => exact absurd (List.cons.inj heq).1 hplus
    · rfl
  rw [hother, hother, List.cons_append]

theorem readExponent_append {exponent : Option Int} (h : readExponent s = some (exponent, t))
    (hrest : Closes rest) : readExponent (s ++ rest) = some (exponent, t ++ rest) := by
  cases s with
  | nil =>
    cases h
    cases rest with
    | nil => rfl
    | cons c later =>
      rcases hrest c rfl with rfl | rfl | rfl <;> rfl
  | cons c later =>
    rw [readExponent_cons] at h
    rw [List.cons_append, readExponent_cons]
    by_cases hmark : (c == 'e' || c == 'E') = true
    · rw [if_pos hmark] at h ⊢
      obtain ⟨⟨digits, after⟩, hdigits, heq⟩ := Option.map_eq_some_iff.1 h
      cases heq
      have hlater : later ≠ [] := by
        rintro rfl
        cases hdigits
      rw [exponentSign_append hlater, readDigits_append hdigits hrest]
      rfl
    · rw [if_neg hmark] at h ⊢
      cases h
      rfl

/-- A sign, and what follows it. -/
def signOf (s : List Char) : Bool × List Char :=
  match s with
  | '-' :: rest => (true, rest)
  | _ => (false, s)

/-- What the parts of a number stand for. -/
def numberOf? (negative : Bool) (whole : List Char) (fraction : Option (List Char))
    (exponent : Option Int) : Option Json :=
  let kept := match fraction, exponent with
    | none, none => integer? negative (Text.digitsValue 10 whole)
    | _, _ => none
  match kept with
  | some n => some n
  | none =>
    double? negative (Decimal.Numeral.ofDigits whole (fraction.getD []) (exponent.getD 0))

theorem readNumber_eq (s : List Char) :
    readNumber s = (readDigits (signOf s).2).bind fun w =>
      if (decide (w.1.length > 1) && w.1.head? == some '0') = true then none
      else (readFraction w.2).bind fun f => (readExponent f.2).bind fun e =>
        (numberOf? (signOf s).1 w.1 f.1 e.1).map (·, e.2) := by
  unfold readNumber signOf
  dsimp only
  refine congrArg (Option.bind _) (funext fun w => ?_)
  split
  · rfl
  refine congrArg (Option.bind _) (funext fun f => ?_)
  refine congrArg (Option.bind _) (funext fun e => ?_)
  obtain ⟨fraction, s₂⟩ := f
  obtain ⟨exponent, s₃⟩ := e
  -- only a number of digits alone may be kept as an integer
  cases fraction with
  | some places => exact Option.map_eq_bind.symm
  | none =>
    cases exponent with
    | some n => exact Option.map_eq_bind.symm
    | none =>
      rw [numberOf?]
      dsimp only
      generalize integer? _ (Text.digitsValue 10 w.1) = kept
      cases kept with
      | some n => rfl
      | none => exact Option.map_eq_bind.symm

theorem signOf_append (hs : s ≠ []) :
    signOf (s ++ rest) = ((signOf s).1, (signOf s).2 ++ rest) := by
  obtain ⟨c, later, rfl⟩ := List.exists_cons_of_ne_nil hs
  rw [List.cons_append]
  by_cases hminus : c = '-'
  · rw [hminus]
    rfl
  have hother (l : List Char) : signOf (c :: l) = (false, c :: l) := by
    unfold signOf
    split
    · next heq => exact absurd (List.cons.inj heq).1 hminus
    · rfl
  rw [hother, hother, List.cons_append]

theorem ne_nil_of_readNumber {value : Json} (h : readNumber s = some (value, t)) : s ≠ [] := by
  rintro rfl
  cases h

/-- A number is read alike before what closes it. -/
theorem readNumber_append {value : Json} (h : readNumber s = some (value, t))
    (hrest : Closes rest) : readNumber (s ++ rest) = some (value, t ++ rest) := by
  have hs := ne_nil_of_readNumber h
  rw [readNumber_eq] at h
  obtain ⟨⟨whole, s₁⟩, hwhole, h⟩ := Option.bind_eq_some_iff.1 h
  split at h
  · cases h
  next hzero =>
  obtain ⟨⟨fraction, s₂⟩, hfraction, h⟩ := Option.bind_eq_some_iff.1 h
  obtain ⟨⟨exponent, s₃⟩, hexponent, h⟩ := Option.bind_eq_some_iff.1 h
  obtain ⟨n, hn, heq⟩ := Option.map_eq_some_iff.1 h
  cases heq
  rw [readNumber_eq, signOf_append hs, readDigits_append hwhole hrest]
  dsimp only [Option.bind_some]
  rw [if_neg hzero, readFraction_append hfraction hrest]
  dsimp only [Option.bind_some]
  rw [readExponent_append hexponent hrest]
  dsimp only [Option.bind_some]
  rw [hn]
  rfl

theorem signOf_toDigits (n : Nat) :
    signOf (Nat.toDigits 10 n) = (false, Nat.toDigits 10 n) := by
  unfold signOf
  split
  · next heq =>
    have hdigit := Text.isDigit_of_mem_toDigits (n := n) (heq ▸ List.mem_cons_self)
    cases hdigit
  · rfl

theorem readDigits_toDigits (n : Nat) :
    readDigits (Nat.toDigits 10 n) = some (Nat.toDigits 10 n, []) := by
  have hdigits : ∀ c ∈ Nat.toDigits 10 n, c.isDigit = true := fun c => Text.isDigit_of_mem_toDigits
  have htake : (Nat.toDigits 10 n).takeWhile Char.isDigit = Nat.toDigits 10 n :=
    List.takeWhile_eq_self_iff.2 hdigits
  have hdrop : (Nat.toDigits 10 n).dropWhile Char.isDigit = [] :=
    List.dropWhile_eq_nil_iff.2 hdigits
  rw [readDigits, htake, hdrop]
  split
  · next hnil => exact absurd hnil Nat.toDigits_ne_nil
  · rfl

/-- The digits of a number do not begin with a zero before others. -/
theorem leading_zero_toDigits (n : Nat) :
    (decide ((Nat.toDigits 10 n).length > 1) && (Nat.toDigits 10 n).head? == some '0') = false := by
  rcases Nat.eq_zero_or_pos n with rfl | hpos
  · rfl
  · rw [beq_eq_false_iff_ne.2 (Text.head?_toDigits_ne hpos), Bool.and_false]

theorem readNumber_writeInt {n : Int} (h : -UInt64.size ≤ 2 * n ∧ n < UInt64.size) :
    readNumber (writeInt n) = some (.integer n, []) := by
  have hparts {s : List Char} {negative : Bool} {k : Nat} {value : Json}
      (hsign : signOf s = (negative, Nat.toDigits 10 k))
      (hvalue : integer? negative k = some value) : readNumber s = some (value, []) := by
    rw [readNumber_eq, hsign, readDigits_toDigits]
    dsimp only [Option.bind_some]
    rw [leading_zero_toDigits]
    change ((numberOf? negative (Nat.toDigits 10 k) none none).map (·, [])) = _
    rw [numberOf?, Text.digitsValue_toDigits, hvalue]
    rfl
  cases n with
  | ofNat k =>
    have hk : k < UInt64.size := Int.ofNat_lt.1 h.2
    exact hparts (signOf_toDigits k) (if_pos hk)
  | negSucc k =>
    have hk : ¬(k + 1 = 0 ∨ UInt64.size < 2 * (k + 1)) := by omega
    exact hparts (s := '-' :: Nat.toDigits 10 (k + 1)) rfl (if_neg hk)

/-! ## Strings -/

theorem readUnit_hexDigits {n : Nat} (h : n < 0x20) (rest : List Char) :
    readUnit ('0' :: '0' :: hexDigit (n / 16) :: hexDigit (n % 16) :: rest) = some (n, rest) := by
  have hdigits : ∀ n < 0x20, (['0', '0', hexDigit (n / 16), hexDigit (n % 16)].mapM
      Text.digitValue?).map (List.foldl (fun n digit => 16 * n + digit) 0) = some n := by decide
  obtain ⟨digits, hread, hvalue⟩ := Option.map_eq_some_iff.1 (hdigits n h)
  rw [readUnit, hread, ← hvalue]
  rfl

theorem readCodePoint_hexDigits {c : Char} (h : c.toNat < 0x20) (rest : List Char) :
    readCodePoint ('0' :: '0' :: hexDigit (c.toNat / 16) :: hexDigit (c.toNat % 16) :: rest) =
      some (c, rest) := by
  have hhigh : ¬(0xd800 ≤ c.toNat ∧ c.toNat < 0xdc00) := by omega
  have hlow : ¬(0xdc00 ≤ c.toNat ∧ c.toNat < 0xe000) := by omega
  rw [readCodePoint, readUnit_hexDigits h]
  change (if 0xd800 ≤ c.toNat ∧ c.toNat < 0xdc00 then _ else _) = _
  rw [if_neg hhigh, if_neg hlow, Char.ofNat_toNat]
  rfl

/-- A character is read back whatever way it is escaped. -/
theorem readText_escapeChar {c : Char} {fuel : Nat} {rest : List Char} :
    readText (fuel + 1) (escapeChar c ++ rest) =
      (readText fuel rest).map fun t => (c :: t.1, t.2) := by
  unfold escapeChar
  split
  iterate 5 rw [Option.map_eq_bind]; rfl
  next _ hquote hslash hline hreturn htab =>
  rw [Option.map_eq_bind]
  by_cases hcontrol : c.toNat < 0x20
  · rw [if_pos hcontrol]
    change (readCodePoint ('0' :: '0' :: hexDigit (c.toNat / 16) :: hexDigit (c.toNat % 16) ::
      rest)).bind _ = _
    rw [readCodePoint_hexDigits hcontrol]
    rfl
  · have hplain : ¬(c == '\\' || decide (c.toNat < 0x20)) = true := by
      simp [hcontrol, show c ≠ '\\' from hslash]
    rw [if_neg hcontrol, List.singleton_append,
      readText.eq_6 _ _ _ hquote (fun _ hc _ => hslash hc) fun _ _ hc _ => hslash hc,
      if_neg hplain]
    rfl

theorem readText_writeString {s : List Char} {fuel : Nat} (hfuel : s.length < fuel)
    (rest : List Char) :
    readText fuel (s.flatMap escapeChar ++ '"' :: rest) = some (s, rest) := by
  induction s generalizing fuel with
  | nil =>
    obtain ⟨fuel, rfl⟩ := Nat.exists_eq_add_one.2 hfuel
    rfl
  | cons c s ih =>
    obtain ⟨fuel, rfl⟩ := Nat.exists_eq_add_one.2 (Nat.zero_lt_of_lt hfuel)
    rw [List.flatMap_cons, List.append_assoc, readText_escapeChar,
      ih (Nat.lt_of_succ_lt_succ hfuel)]
    rfl

theorem length_le_flatMap_escapeChar (s : List Char) :
    s.length ≤ (s.flatMap escapeChar).length := by
  have hpos (c : Char) : 0 < (escapeChar c).length := by
    unfold escapeChar
    split
    iterate 5 exact Nat.succ_pos _
    split <;> exact Nat.succ_pos _
  induction s with
  | nil => exact Nat.le_refl 0
  | cons c later ih =>
    have := hpos c
    rw [List.flatMap_cons, List.length_append, List.length_cons]
    omega

theorem readString_writeString (s : String) (rest : List Char) :
    readString (s.toList.flatMap escapeChar ++ '"' :: rest) = some (s, rest) := by
  have hfuel : s.toList.length < (s.toList.flatMap escapeChar ++ '"' :: rest).length + 1 := by
    have := length_le_flatMap_escapeChar s.toList
    rw [List.length_append]
    omega
  rw [readString, readText_writeString hfuel, Option.map_some]
  dsimp only
  rw [String.ofList_toList]

end GatewayPlane.Json
