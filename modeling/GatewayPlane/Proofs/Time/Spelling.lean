import GatewayPlane.Proofs.Json.Restoring
import GatewayPlane.Time.Document
import Mathlib.Data.List.Forall2
import Mathlib.Data.List.TakeWhile

/-!
# Spans are read back

What is written of a span is a sum of terms, whose units go down from years to nanoseconds.
Each term is read back on its own, and adding them all up gives the span again: no amount
and no sum on the way outgrows its word.
-/
namespace GatewayPlane.Span

/-! ## Digits -/

def digitsOf (n : Nat) : List Nat := (Nat.toDigits 10 n).map fun c => c.toNat - '0'.toNat

theorem valueOf_digitsOf (n : Nat) : valueOf (digitsOf n) = n := by
  rw [valueOf, digitsOf, List.foldl_map]
  exact Nat.ofDigitChars_ten_toDigits

/-- Digits are read up to the first character that is neither a digit nor blank. -/
theorem digitRun_append {digits rest : List Char} (hdigits : ∀ c ∈ digits, c.isDigit = true)
    (hrest : ∀ c ∈ rest.head?, c.isDigit = false ∧ Text.isBlank c = false) :
    digitRun (digits ++ rest) = (digits.map fun c => c.toNat - '0'.toNat, rest) := by
  induction digits with
  | nil =>
    cases rest with
    | nil => rfl
    | cons c later =>
      obtain ⟨hdigit, hblank⟩ := hrest c rfl
      simp [digitRun, hdigit, hblank]
  | cons c later ih =>
    rw [List.forall_mem_cons] at hdigits
    simp [digitRun, hdigits.1, ih hdigits.2]

/-! ## Terms -/

/-- The units of the written form. -/
def unitsDown : List TimeUnit :=
  [.year, .month, .day, .hour, .minute, .second, .millisecond, .microsecond, .nanosecond]

/-- What a name takes in the plural. -/
def ending (hasPlural : Bool) (count : Nat) : List Char :=
  if hasPlural && count > 1 then ['s'] else []

/-- So many of a unit, as it is written. -/
def writtenTerm (entry : Nat × String × Bool) (count : Nat) : List Char :=
  Nat.toDigits 10 count ++ (entry.2.1.toList ++ ending entry.2.2 count)

/-- Whether an entry of the written units names a unit, in both numbers. -/
structure Names (entry : Nat × String × Bool) (unit : TimeUnit) : Prop where
  size : entry.1 = unit.nanos
  singular : TimeUnit.ofName? entry.2.1 = some unit
  plural : entry.2.2 = true → TimeUnit.ofName? (entry.2.1 ++ "s") = some unit
  letters : entry.2.1.toList.all Char.isAlpha = true
  nonempty : entry.2.1.toList ≠ []

theorem forall₂_writtenUnits : List.Forall₂ Names writtenUnits unitsDown := by
  refine .cons ⟨rfl, rfl, fun _ => rfl, by decide, by decide⟩ ?year
  refine .cons ⟨rfl, rfl, fun _ => rfl, by decide, by decide⟩ ?month
  refine .cons ⟨rfl, rfl, fun _ => rfl, by decide, by decide⟩ ?day
  refine .cons ⟨rfl, rfl, nofun, by decide, by decide⟩ ?hour
  refine .cons ⟨rfl, rfl, nofun, by decide, by decide⟩ ?minute
  refine .cons ⟨rfl, rfl, nofun, by decide, by decide⟩ ?second
  refine .cons ⟨rfl, rfl, nofun, by decide, by decide⟩ ?millisecond
  refine .cons ⟨rfl, rfl, nofun, by decide, by decide⟩ ?microsecond
  exact .cons ⟨rfl, rfl, nofun, by decide, by decide⟩ .nil

theorem isUnitChar_of_isAlpha {c : Char} (h : c.isAlpha = true) : isUnitChar c = true := by
  rw [isUnitChar, h, Bool.true_or]

namespace Names
variable {entry : Nat × String × Bool} {unit : TimeUnit}

theorem ofName?_ending (h : Names entry unit) (count : Nat) :
    TimeUnit.ofName? (String.ofList (entry.2.1.toList ++ ending entry.2.2 count)) = some unit := by
  unfold ending
  split
  · next hcount =>
    have hplural : entry.2.2 = true := (Bool.and_eq_true_iff.1 hcount).1
    change TimeUnit.ofName? (String.ofList (entry.2.1.toList ++ "s".toList)) = some unit
    rw [← String.toList_append, String.ofList_toList]
    exact h.plural hplural
  · rw [List.append_nil, String.ofList_toList]
    exact h.singular

theorem isAlpha_of_mem (h : Names entry unit) {count : Nat} {c : Char}
    (hc : c ∈ entry.2.1.toList ++ ending entry.2.2 count) : c.isAlpha = true := by
  rcases List.mem_append.1 hc with hc | hc
  · exact List.all_eq_true.1 h.letters c hc
  · unfold ending at hc
    split at hc
    · rw [List.mem_singleton.1 hc]
      rfl
    · cases hc

end Names

theorem isAlpha_bounds {c : Char} (h : c.isAlpha = true) :
    (65 ≤ c.toNat ∧ c.toNat ≤ 90) ∨ (97 ≤ c.toNat ∧ c.toNat ≤ 122) := by
  change (decide ('A'.val ≤ c.val ∧ c.val ≤ 'Z'.val) ||
    (decide ('a'.val ≤ c.val) && decide (c.val ≤ 'z'.val))) = true at h
  simpa [UInt32.le_iff_toNat_le] using h

theorem not_isDigit_of_isAlpha {c : Char} (h : c.isAlpha = true) :
    c.isDigit = false ∧ Text.isBlank c = false ∧ c ≠ '.' := by
  have hc := isAlpha_bounds h
  refine ⟨?_, ?_, ?_⟩
  · have hdigit : ¬(48 ≤ c.toNat ∧ c.toNat ≤ 57) := by omega
    simpa [Char.isDigit, UInt32.le_iff_toNat_le] using hdigit
  · rw [← Bool.not_eq_true]
    simp only [Text.isBlank, Bool.or_eq_true, Bool.and_eq_true, decide_eq_true_eq, beq_iff_eq]
    omega
  · rintro rfl
    revert hc
    decide

theorem writtenTerm_eq_cons (entry : Nat × String × Bool) (count : Nat) :
    ∃ c rest, writtenTerm entry count = c :: rest ∧ c.isDigit = true := by
  obtain ⟨c, digits, hdigits⟩ := List.exists_cons_of_ne_nil
    (Nat.toDigits_ne_nil (n := count) (b := 10))
  have hdigit : c.isDigit = true :=
    Text.isDigit_of_mem_toDigits (n := count) (hdigits ▸ List.mem_cons_self)
  exact ⟨c, _, by rw [writtenTerm, hdigits, List.cons_append], hdigit⟩

/-- A term is read up to the space before the next. -/
theorem readTerm_writtenTerm {entry : Nat × String × Bool} {unit : TimeUnit}
    (h : Names entry unit) (count : Nat) {later : List Char}
    (hlater : ∀ c ∈ later.head?, isUnitChar c = false) :
    readTerm (writtenTerm entry count ++ later) = some (⟨digitsOf count, none, unit⟩, later) := by
  rw [writtenTerm, List.append_assoc]
  generalize hword : entry.2.1.toList ++ ending entry.2.2 count = word
  have hunit : TimeUnit.ofName? (String.ofList word) = some unit := hword ▸ h.ofName?_ending count
  have hletters : ∀ c ∈ word, c.isAlpha = true := fun c hc => h.isAlpha_of_mem (hword ▸ hc)
  obtain ⟨c, rest, rfl⟩ : ∃ c rest, word = c :: rest := by
    refine List.exists_cons_of_ne_nil fun hnil => h.nonempty ?_
    rw [hnil] at hword
    exact (List.append_eq_nil_iff.1 hword).1
  obtain ⟨hdigit, hblank, hpoint⟩ := not_isDigit_of_isAlpha (hletters c List.mem_cons_self)
  have hrun : digitRun (Nat.toDigits 10 count ++ (c :: rest ++ later)) =
      (digitsOf count, c :: rest ++ later) := by
    refine digitRun_append (fun c => Text.isDigit_of_mem_toDigits) fun c hc => ?_
    cases hc
    exact ⟨hdigit, hblank⟩
  have hunitChars : ∀ c' ∈ c :: rest, isUnitChar c' = true :=
    fun c' hc' => isUnitChar_of_isAlpha (hletters c' hc')
  have htake := Text.takeWhile_append_of_head? hlater (c :: rest)
  have hdrop := Text.dropWhile_append_of_head? hlater (c :: rest)
  rw [List.takeWhile_eq_self_iff.2 hunitChars] at htake
  rw [List.dropWhile_eq_nil_iff.2 hunitChars, List.nil_append] at hdrop
  rw [List.cons_append] at hrun htake hdrop
  rw [readTerm, List.cons_append, hrun]
  dsimp only
  split
  · next heq =>
    cases heq
    exact absurd rfl hpoint
  · change (TimeUnit.ofName? (String.ofList ((c :: (rest ++ later)).takeWhile isUnitChar))).bind _ = _
    rw [htake, hunit, hdrop]
    rfl

/-! ## Sums of terms -/

/-- The terms that a number of nanoseconds is written in. -/
def termsOf : List TimeUnit → Nat → List Term
  | [], _ => []
  | unit :: units, n =>
    let rest := termsOf units (n % unit.nanos)
    if n / unit.nanos = 0 then rest else ⟨digitsOf (n / unit.nanos), none, unit⟩ :: rest

theorem writeTerms_cons {entry : Nat × String × Bool} {unit : TimeUnit} (h : Names entry unit)
    (entries : List (Nat × String × Bool)) (n : Nat) :
    writeTerms (entry :: entries) n =
      if n / unit.nanos = 0 then writeTerms entries (n % unit.nanos)
      else writtenTerm entry (n / unit.nanos) :: writeTerms entries (n % unit.nanos) := by
  obtain ⟨size, name, hasPlural⟩ := entry
  obtain rfl : size = unit.nanos := h.size
  rw [writeTerms, writtenTerm, ← List.append_assoc]
  rfl

theorem readTerms_space (fuel : Nat) (s : List Char) :
    readTerms fuel (' ' :: s) = readTerms fuel s := by
  have hdrop : (' ' :: s).dropWhile Text.isBlank = s.dropWhile Text.isBlank := rfl
  cases fuel with
  | zero => rw [readTerms, hdrop, readTerms]
  | succ fuel => rw [readTerms, hdrop, readTerms]

theorem not_isBlank_of_isDigit {c : Char} (h : c.isDigit = true) : Text.isBlank c = false := by
  have hbounds : 48 ≤ c.toNat ∧ c.toNat ≤ 57 := by
    simpa [Char.isDigit, UInt32.le_iff_toNat_le] using h
  rw [← Bool.not_eq_true]
  simp only [Text.isBlank, Bool.or_eq_true, Bool.and_eq_true, decide_eq_true_eq, beq_iff_eq]
  omega

/-- Terms with a space before each are read one by one. -/
theorem readTerms_writeTerms {entries : List (Nat × String × Bool)} {units : List TimeUnit}
    (h : List.Forall₂ Names entries units) {n fuel : Nat}
    (hfuel : (writeTerms entries n).length ≤ fuel) :
    readTerms fuel ((writeTerms entries n).flatMap (' ' :: ·)) = some (termsOf units n) := by
  induction h generalizing n fuel with
  | nil => cases fuel <;> rfl
  | @cons entry unit entries units hentry _ ih =>
    rw [writeTerms_cons hentry] at hfuel ⊢
    rw [termsOf]
    by_cases hcount : n / unit.nanos = 0
    · rw [if_pos hcount] at hfuel ⊢
      rw [if_pos hcount]
      exact ih hfuel
    · rw [if_neg hcount] at hfuel ⊢
      rw [if_neg hcount]
      obtain ⟨fuel, rfl⟩ : ∃ fuel', fuel = fuel' + 1 :=
        Nat.exists_eq_add_one.2 (Nat.lt_of_lt_of_le (Nat.succ_pos _) hfuel)
      have hlater := ih (Nat.le_of_succ_le_succ hfuel)
      have hspace : ∀ c ∈ ((writeTerms entries (n % unit.nanos)).flatMap (' ' :: ·)).head?,
          isUnitChar c = false := by
        intro c hc
        cases hterms : writeTerms entries (n % unit.nanos) with
        | nil =>
          rw [hterms] at hc
          cases hc
        | cons term terms =>
          rw [hterms] at hc
          cases hc
          rfl
      have hterm := readTerm_writtenTerm hentry (n / unit.nanos) hspace
      obtain ⟨c, rest, hfirst, hdigit⟩ := writtenTerm_eq_cons entry (n / unit.nanos)
      rw [List.flatMap_cons, List.cons_append, readTerms_space]
      rw [hfirst, List.cons_append] at hterm ⊢
      rw [readTerms, List.dropWhile_cons_of_neg (by simp [not_isBlank_of_isDigit hdigit])]
      dsimp only
      rw [if_pos hdigit, hterm]
      change (readTerms fuel _).bind _ = _
      rw [hlater]
      rfl

/-! ## Adding up -/

theorem add?_eq_some {d : Span} {amount grain : Nat} (hamount : amount < UInt64.size)
    (hgrain : grain = 1 → d.subsecond + amount < UInt64.size)
    (hsum : d.nanos + amount * grain < UInt64.size * 1_000_000_000) :
    ∃ d', d.add? amount grain = some d' ∧ d'.nanos = d.nanos + amount * grain := by
  rw [add?, if_pos ⟨hamount, hgrain⟩, ofNanos?, dif_pos hsum]
  exact ⟨_, rfl, rfl⟩

/-- Every unit is counted in whole seconds or in nanoseconds. -/
theorem wholeGrain_mul (unit : TimeUnit) :
    unit.nanos / unit.wholeGrain * unit.wholeGrain = unit.nanos ∧
      (unit.wholeGrain = 1 ∨ unit.wholeGrain = 1_000_000_000) := by
  cases unit <;> decide

theorem nanos_pos (unit : TimeUnit) : 0 < unit.nanos := by cases unit <;> decide

/-- Whole numbers of a unit are added, if those that are counted in nanoseconds make no second. -/
theorem addTo?_eq_some {d : Span} {count : Nat} {unit : TimeUnit}
    (hsum : d.nanos + count * unit.nanos < UInt64.size * 1_000_000_000)
    (hsmall : unit.wholeGrain = 1 → count * unit.nanos < 1_000_000_000) :
    ∃ d', (Term.addTo? ⟨digitsOf count, none, unit⟩ d) = some d' ∧
      d'.nanos = d.nanos + count * unit.nanos := by
  obtain ⟨hunit, hgrain⟩ := wholeGrain_mul unit
  have hpos := nanos_pos unit
  have hsize : 1_000_000_000 + 1_000_000_000 < UInt64.size := by decide
  have hsubsecond : d.subsecond < 1_000_000_000 := Nat.mod_lt _ (by decide)
  generalize hper : unit.nanos / unit.wholeGrain = per at hunit
  have htotal : count * per * unit.wholeGrain = count * unit.nanos := by
    rw [Nat.mul_assoc, hunit]
  have hamount : count * per < UInt64.size := by
    rcases hgrain with hgrain | hgrain
    · have := hsmall hgrain
      rw [hgrain, Nat.mul_one] at htotal
      omega
    · rw [hgrain] at htotal
      omega
  have hcount : ¬UInt64.size ≤ count := by
    have hper : 0 < per := Nat.pos_of_ne_zero fun hzero => by
      rw [hzero, Nat.zero_mul] at hunit
      omega
    have := Nat.le_mul_of_pos_right count hper
    omega
  have hsecond : unit.wholeGrain = 1 → d.subsecond + count * per < UInt64.size := by
    intro hgrain
    have := hsmall hgrain
    rw [hgrain, Nat.mul_one] at htotal
    omega
  obtain ⟨d', hadd, hnanos⟩ := add?_eq_some hamount hsecond (htotal ▸ hsum)
  refine ⟨d', ?_, htotal ▸ hnanos⟩
  rw [Term.addTo?, valueOf_digitsOf, hper]
  dsimp only
  rw [if_neg hcount]
  change (d.add? _ _).bind _ = _
  rw [hadd]
  rfl

/-- Whether what is left for a unit that is counted in nanoseconds makes no second. -/
def SecondsTaken : List TimeUnit → Nat → Prop
  | [], _ => True
  | unit :: units, n =>
    (unit.wholeGrain = 1 → n < 1_000_000_000) ∧ SecondsTaken units (n % unit.nanos)

theorem secondsTaken_unitsDown (n : Nat) : SecondsTaken unitsDown n := by
  simp [unitsDown, SecondsTaken, TimeUnit.wholeGrain, TimeUnit.nanos]
  omega

theorem foldlM_termsOf {units : List TimeUnit} {n : Nat} (htaken : SecondsTaken units n) {d : Span}
    (hsum : d.nanos + n < UInt64.size * 1_000_000_000) :
    ∃ d', (termsOf units n).foldlM (fun d term => term.addTo? d) d = some d' ∧
      d'.nanos + units.foldl (fun n unit => n % unit.nanos) n = d.nanos + n := by
  induction units generalizing n d with
  | nil => exact ⟨d, rfl, rfl⟩
  | cons unit units ih =>
    have hsplit : n / unit.nanos * unit.nanos + n % unit.nanos = n := Nat.div_add_mod' n unit.nanos
    obtain ⟨hsmall, htaken⟩ := htaken
    rw [termsOf, List.foldl_cons]
    by_cases hcount : n / unit.nanos = 0
    · rw [if_pos hcount]
      rw [hcount] at hsplit
      obtain ⟨d', hfold, hnanos⟩ := ih htaken (d := d) (by omega)
      exact ⟨d', hfold, by omega⟩
    · rw [if_neg hcount]
      have hterm : d.nanos + n / unit.nanos * unit.nanos < UInt64.size * 1_000_000_000 := by omega
      have hpart : unit.wholeGrain = 1 → n / unit.nanos * unit.nanos < 1_000_000_000 := by
        intro hgrain
        have := hsmall hgrain
        omega
      obtain ⟨next, hadd, hnext⟩ := addTo?_eq_some hterm hpart
      obtain ⟨d', hfold, hnanos⟩ := ih htaken (d := next) (by omega)
      refine ⟨d', ?_, by omega⟩
      rw [List.foldlM_cons, hadd]
      exact hfold

theorem foldlM_termsOf_unitsDown (d : Span) :
    (termsOf unitsDown d.nanos).foldlM (fun d term => term.addTo? d) zero = some d := by
  have hbounded : zero.nanos + d.nanos < UInt64.size * 1_000_000_000 :=
    (Nat.zero_add d.nanos).symm ▸ d.bounded
  obtain ⟨d', hfold, hnanos⟩ := foldlM_termsOf (secondsTaken_unitsDown d.nanos) hbounded
  have hrest : unitsDown.foldl (fun n unit => n % unit.nanos) d.nanos = 0 := Nat.mod_one _
  have hzero : zero.nanos = 0 := rfl
  rw [hrest, hzero, Nat.add_zero, Nat.zero_add] at hnanos
  rw [hfold, ext hnanos]

/-! ## The text as a whole -/

theorem intercalate_space (first : List Char) (terms : List (List Char)) :
    ' ' :: [' '].intercalate (first :: terms) = (first :: terms).flatMap (' ' :: ·) := by
  induction terms generalizing first with
  | nil => simp [List.intercalate]
  | cons second terms ih =>
    rw [List.flatMap_cons, ← ih second]
    simp [List.intercalate]

theorem length_writeTerms_le {entries : List (Nat × String × Bool)} {units : List TimeUnit}
    (h : List.Forall₂ Names entries units) (n : Nat) :
    2 * (writeTerms entries n).length ≤ ((writeTerms entries n).flatMap (' ' :: ·)).length := by
  induction h generalizing n with
  | nil => exact Nat.le_refl 0
  | @cons entry unit entries units hentry _ ih =>
    have hrest := ih (n % unit.nanos)
    rw [writeTerms_cons hentry]
    split
    · exact hrest
    · obtain ⟨c, rest, hterm, -⟩ := writtenTerm_eq_cons entry (n / unit.nanos)
      rw [hterm, List.flatMap_cons, List.length_append, List.length_cons, List.length_cons,
        List.length_cons]
      omega

/-- What is written of a span is read as that span. -/
theorem parse?_render (d : Span) : parse? d.render = some d := by
  by_cases hzero : d.nanos = 0
  · obtain rfl : d = zero := ext hzero
    rfl
  have hfold := foldlM_termsOf_unitsDown d
  have hterms : termsOf unitsDown d.nanos ≠ [] := by
    intro hnil
    rw [hnil] at hfold
    exact hzero (congrArg nanos (Option.some.inj hfold)).symm
  have hread (fuel : Nat) (hfuel : (writeTerms writtenUnits d.nanos).length ≤ fuel) :=
    readTerms_writeTerms forall₂_writtenUnits hfuel
  have hlength := length_writeTerms_le forall₂_writtenUnits d.nanos
  generalize htext : [' '].intercalate (writeTerms writtenUnits d.nanos) = text
  have hspaced : ' ' :: text = (writeTerms writtenUnits d.nanos).flatMap (' ' :: ·) := by
    cases hwritten : writeTerms writtenUnits d.nanos with
    | nil =>
      have hnone := hread 0 (by rw [hwritten]; exact Nat.le_refl 0)
      rw [hwritten] at hnone
      exact absurd (Option.some.inj hnone).symm hterms
    | cons first terms => rw [← htext, hwritten, intercalate_space]
  have htextRead : readTerms text.length text = some (termsOf unitsDown d.nanos) := by
    rw [← readTerms_space, hspaced]
    refine hread _ ?_
    rw [← hspaced, List.length_cons] at hlength
    omega
  have hother : (String.ofList text == "0") = false := by
    rw [beq_eq_false_iff_ne]
    intro heq
    obtain rfl : text = ['0'] := by rw [← String.toList_ofList (l := text), heq]; rfl
    cases htextRead
  rw [render, if_neg hzero, htext, parse?, hother, String.toList_ofList, htextRead]
  cases hcase : termsOf unitsDown d.nanos with
  | nil => exact absurd hcase hterms
  | cons term terms =>
    rw [hcase] at hfold
    exact hfold

theorem restores : Json.Restores ofJson? toJson where
  read_write d := d.parse?_render
  null := rfl
  wellFormed d := .string d.render

end GatewayPlane.Span
