import GatewayPlane.Path.Base
import Mathlib.Data.List.DropRight

/-!
# Base paths in normal form

A base path that was normalized begins with a slash, and ends with one only when it is nothing
but that slash. To normalize it again changes nothing, unless white space stands before the
slashes that it ended with: these are taken off after the white space around the path, and what
they hid is left at its end. Then, and only then, the paths below it change as well.
-/
namespace GatewayPlane

namespace Text
variable {drop : Char → Bool} {s : List Char} {c : Char}

theorem strip_eq (drop : Char → Bool) (s : List Char) :
    strip drop s = (s.dropWhile drop).rdropWhile drop := rfl

theorem not_drop_getLast_strip (hc : c ∈ (strip drop s).getLast?) : ¬drop c := by
  obtain ⟨hne, rfl⟩ := List.mem_getLast?_eq_getLast hc
  exact List.rdropWhile_last_not drop (s.dropWhile drop) hne

theorem not_drop_head_strip (hc : c ∈ (strip drop s).head?) : ¬drop c := by
  have hbegins : strip drop s <+: s.dropWhile drop := List.rdropWhile_prefix drop _
  obtain ⟨rest, hrest⟩ := hbegins
  have hhead : (s.dropWhile drop).head? = some c := by
    rw [← hrest, List.head?_append, Option.mem_def.1 hc]
    rfl
  have hnot := List.head?_dropWhile_not drop s
  rw [hhead] at hnot
  simpa using hnot

/-- What is taken off the end of a text that begins with something else leaves its beginning. -/
theorem rdropWhile_cons (hc : ¬drop c) (s : List Char) :
    (c :: s).rdropWhile drop = c :: s.rdropWhile drop := by
  induction s using List.reverseRecOn with
  | nil => exact List.rdropWhile_concat_neg drop [] c hc
  | append_singleton s a ih =>
    rw [← List.cons_append]
    by_cases ha : drop a
    · rw [List.rdropWhile_concat_pos drop _ a ha, List.rdropWhile_concat_pos drop _ a ha, ih]
    · rw [List.rdropWhile_concat_neg drop _ a ha, List.rdropWhile_concat_neg drop _ a ha,
        List.cons_append]

theorem rdropWhile_eq_self (h : ∀ c ∈ s.getLast?, ¬drop c) : s.rdropWhile drop = s :=
  List.rdropWhile_eq_self_iff.2 fun hne => h _ (List.getLast?_eq_some_getLast hne)

end Text

namespace Path
open Text

/-- Whether a path ends, the white space around it aside, in white space and slashes after it. -/
def HidesBlank (path : List Char) : Prop :=
  ∃ before c count, isBlank c ∧ strip isBlank path = before ++ c :: List.replicate (count + 1) '/'

/-- What follows the first slash of a normalized path. -/
def inner (path : List Char) : List Char := strip isSlash (strip isBlank path)

theorem normalizeChars_eq (path : List Char) : normalizeChars path = '/' :: inner path := rfl

variable {path t : List Char}

theorem isSlash_iff {c : Char} : isSlash c ↔ c = '/' := by
  simp [isSlash]

/-- Only the end of a path that begins with one slash can still change. -/
theorem inner_rooted (h : ∀ c ∈ t.head?, ¬isSlash c) :
    inner ('/' :: t) = (t.rdropWhile isBlank).rdropWhile isSlash := by
  have hblank : ¬isBlank '/' := by decide
  have hstripped : strip isBlank ('/' :: t) = '/' :: t.rdropWhile isBlank := by
    rw [strip_eq, List.dropWhile_cons_of_neg hblank, rdropWhile_cons hblank]
  have hkept : (t.rdropWhile isBlank).dropWhile isSlash = t.rdropWhile isBlank := by
    cases hrest : t.rdropWhile isBlank with
    | nil => rfl
    | cons c rest =>
      obtain ⟨after, hafter⟩ := List.rdropWhile_prefix isBlank t
      refine List.dropWhile_cons_of_neg (h c ?_)
      rw [← hafter, hrest]
      rfl
  rw [inner, hstripped, strip_eq, List.dropWhile_cons_of_pos (by decide), hkept]

/-- A normalized path changes again when it ends in white space. -/
theorem inner_normalizeChars_iff (path : List Char) :
    inner (normalizeChars path) = inner path ↔ ∀ c ∈ (inner path).getLast?, ¬isBlank c := by
  have hlast : ∀ c ∈ (inner path).getLast?, ¬isSlash c := fun c => not_drop_getLast_strip
  have hhead : ∀ c ∈ (inner path).head?, ¬isSlash c := fun c => not_drop_head_strip
  rw [normalizeChars_eq, inner_rooted hhead]
  generalize inner path = t at hlast
  constructor
  · intro h c hc
    have hslash : (t.rdropWhile isBlank).rdropWhile isSlash <+: t.rdropWhile isBlank :=
      List.rdropWhile_prefix isSlash _
    have hblank : t.rdropWhile isBlank <+: t := List.rdropWhile_prefix isBlank _
    have hself : t.rdropWhile isBlank = t :=
      hblank.eq_of_length_le (by simpa [h] using hslash.length_le)
    obtain ⟨hne, rfl⟩ := List.mem_getLast?_eq_getLast hc
    exact List.rdropWhile_eq_self_iff.1 hself hne
  · intro h
    rw [rdropWhile_eq_self h, rdropWhile_eq_self hlast]

/-- What slashes hid is what is left at the end. -/
theorem hidesBlank_iff : HidesBlank path ↔ ∃ c ∈ (inner path).getLast?, isBlank c := by
  have hlast : ∀ c ∈ (strip isBlank path).getLast?, ¬isBlank c := fun c => not_drop_getLast_strip
  unfold HidesBlank inner
  generalize strip isBlank path = u at hlast
  constructor
  · rintro ⟨before, c, count, hblank, rfl⟩
    have hslash : ¬isSlash c := by
      rw [isSlash_iff]
      rintro rfl
      cases hblank
    have hfront (rest : List Char) : (before ++ c :: rest).dropWhile isSlash =
        before.dropWhile isSlash ++ c :: rest := by
      rw [List.dropWhile_append, List.dropWhile_cons_of_neg hslash]
      split
      · next hnone => rw [List.isEmpty_iff.1 hnone, List.nil_append]
      · rfl
    have hslashes : ∀ a ∈ (List.replicate (count + 1) '/').reverse, isSlash a := by
      simp [isSlash]
    refine ⟨c, ?_, hblank⟩
    rw [strip_eq, hfront, List.append_cons, List.rdropWhile, List.reverse_append,
      List.dropWhile_append_of_pos hslashes]
    change _ ∈ (List.rdropWhile isSlash _).getLast?
    rw [List.rdropWhile_concat_neg _ _ _ hslash, List.getLast?_concat]
    rfl
  · rintro ⟨c, hc, hblank⟩
    obtain ⟨core, hcore⟩ := List.getLast?_eq_some_iff.1 hc
    have hu : u.takeWhile isSlash ++ (core ++ [c] ++ (u.dropWhile isSlash).rtakeWhile isSlash) =
        u := by
      rw [← hcore, strip_eq, List.rdropWhile_append_rtakeWhile, List.takeWhile_append_dropWhile]
    have hslashes : (u.dropWhile isSlash).rtakeWhile isSlash = List.replicate
        ((u.dropWhile isSlash).rtakeWhile isSlash).length '/' :=
      List.eq_replicate_iff.2 ⟨rfl, fun a ha => isSlash_iff.1 (List.mem_rtakeWhile_imp ha)⟩
    generalize (u.dropWhile isSlash).rtakeWhile isSlash = after at hu hslashes
    -- without a slash after it the white space would have been taken off
    cases hcount : after.length with
    | zero =>
      rw [List.eq_nil_of_length_eq_zero hcount, List.append_nil, ← List.append_assoc] at hu
      rw [← hu, List.getLast?_concat] at hlast
      exact absurd hblank (hlast c rfl)
    | succ count =>
      rw [hcount] at hslashes
      refine ⟨u.takeWhile isSlash ++ core, c, count, hblank, hu.symm.trans ?_⟩
      rw [← hslashes, List.append_assoc, List.append_assoc]
      rfl

theorem inner_inner_iff (path : List Char) :
    inner (normalizeChars path) = inner path ↔ ¬HidesBlank path := by
  rw [inner_normalizeChars_iff, hidesBlank_iff]
  simp

theorem normalizeChars_inj {path path' : List Char} :
    normalizeChars path = normalizeChars path' ↔ inner path = inner path' := by
  rw [normalizeChars_eq, normalizeChars_eq, List.cons_inj_right]

/-- What a pattern adds to a base path, but for the slash between them. -/
def tail (pattern : List Char) : List Char := (strip isBlank pattern).dropWhile isSlash

theorem joinChars_eq (base pattern : List Char) : joinChars base pattern =
    '/' :: if tail pattern = [] then inner base
      else if inner base = [] then tail pattern
      else inner base ++ '/' :: tail pattern := by
  unfold joinChars
  rw [normalizeChars_eq, ← tail]
  cases htail : tail pattern with
  | nil => rfl
  | cons c rest =>
    cases hinner : inner base with
    | nil => rfl
    | cons d more => rfl

/-- Paths below two base paths are the same only when the base paths are, in normal form. -/
theorem joinChars_inj {base base' pattern : List Char} :
    joinChars base pattern = joinChars base' pattern ↔ inner base = inner base' := by
  rw [joinChars_eq, joinChars_eq, List.cons_inj_right]
  generalize inner base = b, inner base' = b', tail pattern = t
  refine ⟨fun h => ?_, fun h => by rw [h]⟩
  by_cases ht : t = []
  · rwa [if_pos ht, if_pos ht] at h
  rw [if_neg ht, if_neg ht] at h
  have hlength := congrArg List.length h
  by_cases hb : b = [] <;> by_cases hb' : b' = []
  · rw [hb, hb']
  · rw [if_pos hb, if_neg hb', List.length_append, List.length_cons] at hlength
    omega
  · rw [if_neg hb, if_pos hb', List.length_append, List.length_cons] at hlength
    omega
  · rw [if_neg hb, if_neg hb'] at h
    exact List.append_cancel_right h

theorem toList_normalize (p : String) : (normalize p).toList = normalizeChars p.toList :=
  String.toList_ofList

theorem normalize_inj {p p' : String} :
    normalize p = normalize p' ↔ inner p.toList = inner p'.toList := by
  rw [← normalizeChars_inj, normalize, normalize, String.ofList_inj]

theorem join_inj {base base' pattern : String} :
    join base pattern = join base' pattern ↔ inner base.toList = inner base'.toList := by
  have hchars : joinChars base.toList pattern.toList = joinChars base'.toList pattern.toList ↔
      inner base.toList = inner base'.toList := joinChars_inj
  rw [← hchars, join, join, String.ofList_inj]

/-- A normalized path begins with a slash, and ends with none unless it is nothing else. It is
left as it is when it is normalized again, and stands for the same paths below it as the path
that it was, unless that path, the white space around it aside, has white space before the
slashes at its end. Then both change. -/
theorem normalize_canonical_iff (p q : String) :
    (normalize p).toList.head? = some '/' ∧
    ((normalize p).toList.getLast? = some '/' → normalize p = "/") ∧
    (normalize (normalize p) = normalize p ↔ ¬HidesBlank p.toList) ∧
    (join (normalize p) q = join p q ↔ ¬HidesBlank p.toList) := by
  refine ⟨?_, fun hlast => ?_, ?_, ?_⟩
  · rw [toList_normalize, normalizeChars_eq]
    rfl
  · rw [toList_normalize, normalizeChars_eq] at hlast
    cases hinner : inner p.toList with
    | nil => rw [normalize, normalizeChars_eq, hinner]
    | cons c rest =>
      rw [hinner, List.getLast?_cons_cons, ← hinner] at hlast
      exact absurd (isSlash_iff.2 rfl) (not_drop_getLast_strip hlast)
  · rw [normalize_inj, toList_normalize, inner_inner_iff]
  · rw [join_inj, toList_normalize, inner_inner_iff]

/-- The white space before the last slash is left the first time. -/
theorem not_always_canonical :
    normalize (normalize "/a /") ≠ normalize "/a /" ∧
      join (normalize "/a /") "x" ≠ join "/a /" "x" := by
  decide +kernel

end Path

end GatewayPlane
