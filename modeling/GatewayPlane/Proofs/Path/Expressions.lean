import GatewayPlane.Path.Pattern

/-!
# What path patterns say

The part of the language of regular expressions in which path patterns are written, with its
meaning: anchors, characters, and runs of characters other than one. The meaning does not
know how patterns are made. The pattern of a template is read back as the pieces of the
template, whatever characters its text holds.
-/
namespace GatewayPlane.Path

/-- One step of a regular expression. -/
inductive Element where
  /-- The beginning of the text. -/
  | start
  /-- The end of the text. -/
  | finish
  | char (c : Char)
  /-- One or more characters other than one. -/
  | run (excluded : Char)
  deriving DecidableEq, Repr

namespace Element

/-- Whether a character has a meaning of its own where it stands alone. -/
def isSpecial (c : Char) : Bool :=
  ['\\', '.', '+', '*', '?', '(', ')', '|', '[', ']', '\x7b', '\x7d', '^', '$'].contains c

/-- Whether a character after a backslash stands for itself: one of ASCII that is neither a
letter nor a digit nor an angle bracket. -/
def isEscapable (c : Char) : Bool :=
  decide (c.toNat < 128) && !c.isAlphanum && c != '<' && c != '>'

/-- What a character says that stands alone. -/
def single? (c : Char) : Option Element :=
  if c = '^' then some start
  else if c = '$' then some finish
  else if isSpecial c then none
  else some (char c)

/-- Reads a regular expression; one that says anything else is not read. -/
def ofPattern? : List Char → Option (List Element)
  | [] => some []
  | '\\' :: c :: rest => if isEscapable c then (ofPattern? rest).map (char c :: ·) else none
  | '[' :: '^' :: c :: ']' :: '+' :: rest =>
    if isSpecial c then none else (ofPattern? rest).map (run c :: ·)
  | c :: rest => (single? c).bind fun e => (ofPattern? rest).map (e :: ·)

/-- Whether an element takes a text that stands between two others. -/
def Takes (before text after : List Char) : Element → Prop
  | start => text = [] ∧ before = []
  | finish => text = [] ∧ after = []
  | char c => text = [c]
  | run excluded => text ≠ [] ∧ excluded ∉ text

/-- Whether elements, one after the other, take a text that stands between two others. -/
def Take : List Element → List Char → List Char → List Char → Prop
  | [], _, text, _ => text = []
  | e :: rest, before, text, after => ∃ first others, text = first ++ others ∧
      e.Takes before first (others ++ after) ∧ Take rest (before ++ first) others after

end Element

/-- Whether a pattern takes the whole of a text. -/
def Matches (pattern text : String) : Prop :=
  ∃ es, Element.ofPattern? pattern.toList = some es ∧ Element.Take es [] text.toList []

/-- Whether a pattern takes some part of a text. -/
def Occurs (pattern text : String) : Prop :=
  ∃ es, Element.ofPattern? pattern.toList = some es ∧
    ∃ before part after, text.toList = before ++ part ++ after ∧
      Element.Take es before part after

namespace Element
variable {es es' : List Element} {before text after : List Char}

/-! ## Taking texts -/

theorem take_append : Take (es ++ es') before text after ↔
    ∃ first others, text = first ++ others ∧ Take es before first (others ++ after) ∧
      Take es' (before ++ first) others after := by
  induction es generalizing before text with
  | nil =>
    constructor
    · intro h
      exact ⟨[], text, rfl, rfl, by rwa [List.append_nil]⟩
    · rintro ⟨first, others, rfl, rfl, h⟩
      rwa [List.append_nil] at h
  | cons e rest ih =>
    rw [List.cons_append, Take]
    constructor
    · rintro ⟨first, others, rfl, he, hothers⟩
      obtain ⟨middle, last, rfl, hmiddle, hlast⟩ := ih.1 hothers
      rw [List.append_assoc] at he hlast
      exact ⟨first ++ middle, last, by rw [List.append_assoc], ⟨first, middle, rfl, he, hmiddle⟩,
        hlast⟩
    · rintro ⟨-, last, rfl, ⟨first, middle, rfl, he, hmiddle⟩, hlast⟩
      rw [← List.append_assoc] at he hlast
      refine ⟨first, middle ++ last, List.append_assoc _ _ _, ?_,
        ih.2 ⟨middle, last, rfl, hmiddle, ?_⟩⟩
      · rwa [List.append_assoc] at he ⊢
      · exact hlast

/-- Characters take the text that they are, wherever it stands. -/
theorem take_map_char {s : List Char} : Take (s.map char) before text after ↔ text = s := by
  induction s generalizing before text with
  | nil => rfl
  | cons c rest ih =>
    rw [List.map_cons, Take]
    constructor
    · rintro ⟨first, others, rfl, rfl, h⟩
      rw [ih.1 h, List.singleton_append]
    · rintro rfl
      exact ⟨[c], rest, rfl, rfl, ih.2 rfl⟩

theorem take_singleton {e : Element} : Take [e] before text after ↔ e.Takes before text after := by
  constructor
  · rintro ⟨first, others, rfl, he, rfl⟩
    rwa [List.nil_append, List.append_nil] at *
  · intro h
    exact ⟨text, [], (List.append_nil text).symm, h, rfl⟩

/-- Between anchors stands the whole text. -/
theorem take_anchored : Take (start :: es ++ [finish]) before text after ↔
    before = [] ∧ after = [] ∧ Take es [] text [] := by
  rw [List.cons_append, Take]
  constructor
  · rintro ⟨-, others, rfl, ⟨rfl, rfl⟩, h⟩
    obtain ⟨first, last, rfl, hfirst, hlast⟩ := take_append.1 h
    obtain ⟨rfl, rfl⟩ := take_singleton.1 hlast
    exact ⟨rfl, rfl, by simpa using hfirst⟩
  · rintro ⟨rfl, rfl, h⟩
    refine ⟨[], text, rfl, ⟨rfl, rfl⟩, take_append.2 ⟨text, [], ?_, h, ?_⟩⟩
    · rw [List.append_nil]
    · exact take_singleton.2 ⟨rfl, rfl⟩

/-! ## Reading patterns -/

theorem isEscapable_of_isMeta {c : Char} (h : isMeta c = true) : isEscapable c = true :=
  (List.all_eq_true (p := isEscapable)).1 (by decide) c (List.contains_iff_mem.1 h)

theorem isMeta_of_isSpecial {c : Char} (h : isSpecial c = true) : isMeta c = true :=
  (List.all_eq_true (p := isMeta)).1 (by decide) c (List.contains_iff_mem.1 h)

/-- What is not escaped is read as it stands. -/
theorem single?_of_not_isMeta {c : Char} (h : ¬isMeta c = true) : single? c = some (char c) := by
  have hstart : c ≠ '^' := by
    rintro rfl
    exact h (by decide)
  have hfinish : c ≠ '$' := by
    rintro rfl
    exact h (by decide)
  rw [single?, if_neg hstart, if_neg hfinish, if_neg (mt isMeta_of_isSpecial h)]

/-- Escaped text is read as its characters. -/
theorem ofPattern?_escapeMeta (s rest : List Char) :
    ofPattern? (escapeMeta s ++ rest) = (ofPattern? rest).map (s.map char ++ ·) := by
  induction s with
  | nil => simp [escapeMeta]
  | cons c s ih =>
    have hcons : (ofPattern? (escapeMeta s ++ rest)).map (char c :: ·) =
        (ofPattern? rest).map ((c :: s).map char ++ ·) := by
      rw [ih, Option.map_map]
      rfl
    have hescape : escapeMeta (c :: s) ++ rest =
        (if isMeta c then ['\\', c] else [c]) ++ (escapeMeta s ++ rest) := by
      rw [escapeMeta, List.flatMap_cons, List.append_assoc, escapeMeta]
    rw [hescape, ← hcons]
    by_cases hmeta : isMeta c = true
    · rw [if_pos hmeta, List.cons_append, List.singleton_append, ofPattern?,
        if_pos (isEscapable_of_isMeta hmeta)]
    · rw [if_neg hmeta, List.singleton_append, ofPattern?, single?_of_not_isMeta hmeta,
        Option.bind_some]
      · rintro d rest' rfl -
        exact hmeta (by decide)
      · rintro d rest' rfl -
        exact hmeta (by decide)

theorem ofPattern?_segmentPattern (rest : List Char) :
    ofPattern? (segmentPattern ++ rest) = (ofPattern? rest).map (run '/' :: ·) := by
  rw [segmentPattern]
  simp only [List.cons_append, List.nil_append]
  rw [ofPattern?, if_neg (by decide)]

end Element

/-- What a piece of a template says as part of a regular expression. -/
def Piece.elements : Piece → List Element
  | .literal text => text.map .char
  | .parameter _ => [.run '/']

/-- The pattern of a template is read as its pieces, between anchors. -/
theorem ofPattern?_pattern (t : Template) :
    Element.ofPattern? t.pattern = some (.start :: t.flatMap Piece.elements ++ [.finish]) := by
  have hpieces (rest : List Char) : Element.ofPattern? (t.flatMap Piece.pattern ++ rest) =
      (Element.ofPattern? rest).map (t.flatMap Piece.elements ++ ·) := by
    induction t with
    | nil => simp
    | cons p t ih =>
      rw [List.flatMap_cons, List.append_assoc, List.flatMap_cons]
      cases p with
      | literal text =>
        rw [Piece.pattern, Element.ofPattern?_escapeMeta, ih, Option.map_map]
        congr 1
        funext es
        exact (List.append_assoc _ _ _).symm
      | parameter name =>
        rw [Piece.pattern, Element.ofPattern?_segmentPattern, ih, Option.map_map]
        rfl
  have hfinish : Element.ofPattern? ['$'] = some [.finish] := by decide
  rw [Template.pattern, List.cons_append, Element.ofPattern?, hpieces, hfinish]
  · rfl
  all_goals simp

end GatewayPlane.Path
