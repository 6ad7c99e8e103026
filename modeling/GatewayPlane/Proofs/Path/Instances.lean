import GatewayPlane.Proofs.Path.Expressions
import GatewayPlane.Strategy.Matching

/-!
# Instances of templates

The texts that a template with names between braces stands for, said of the template as it
is written: each name, from left to right, gives way to something that is not empty and has
no slash, and all else stays as it is. The pattern of a template takes exactly these.
-/
namespace GatewayPlane

namespace Path

/-- Whether a text has a name between braces. -/
def HasGroup (s : List Char) : Prop :=
  ∃ before name after, s = before ++ '\x7b' :: (name ++ '\x7d' :: after)

/-- Whether a text comes of a template when something is put in the place of each of its names
between braces. A name begins after the first opening brace and ends before the first closing
brace after it. -/
inductive Instance : List Char → List (List Char) → List Char → Prop
  | verbatim {s} (plain : ¬HasGroup s) : Instance s [] s
  | fill {before name after value names text} (first : '\x7b' ∉ before) (closed : '\x7d' ∉ name)
      (some : value ≠ []) (segment : '/' ∉ value) (rest : Instance after names text) :
      Instance (before ++ '\x7b' :: (name ++ '\x7d' :: after)) (name :: names)
        (before ++ (value ++ text))

/-! ## The groups of a template -/

theorem splitAt?_eq_none_iff {mark : Char} {s : List Char} :
    splitAt? mark s = none ↔ mark ∉ s := by
  induction s with
  | nil => simp [splitAt?]
  | cons c rest ih =>
    rw [splitAt?]
    by_cases hc : c = mark
    · simp [hc]
    · simp [hc, Ne.symm hc, ih]

theorem splitAt?_append {mark : Char} {before : List Char} (h : mark ∉ before)
    (after : List Char) : splitAt? mark (before ++ mark :: after) = some (before, after) := by
  induction before with
  | nil => simp [splitAt?]
  | cons c rest ih =>
    rw [List.mem_cons, not_or] at h
    rw [List.cons_append, splitAt?, if_neg (Ne.symm h.1), ih h.2, Option.map_some]

theorem notMem_of_splitAt? {mark : Char} {s before after : List Char}
    (h : splitAt? mark s = some (before, after)) : mark ∉ before := by
  induction s generalizing before with
  | nil => cases h
  | cons c rest ih =>
    rw [splitAt?] at h
    by_cases hc : c = mark
    · rw [if_pos hc] at h
      cases h
      exact List.not_mem_nil
    · rw [if_neg hc] at h
      obtain ⟨⟨b, a⟩, hb, heq⟩ := Option.map_eq_some_iff.1 h
      cases heq
      rw [List.mem_cons, not_or]
      exact ⟨Ne.symm hc, ih hb⟩

/-- A closing brace after the first opening brace makes a group. -/
theorem hasGroup_append_iff {before after : List Char} (h : '\x7b' ∉ before) :
    HasGroup (before ++ '\x7b' :: after) ↔ '\x7d' ∈ after := by
  constructor
  · rintro ⟨before', name, rest, heq⟩
    rcases List.append_eq_append_iff.1 heq with ⟨others, -, hrest⟩ | ⟨others, rfl, hrest⟩
    · -- the group begins at the first opening brace, or after it
      have hclosed : '\x7d' ∈ '\x7b' :: after := by
        rw [hrest]
        simp
      simpa using hclosed
    · cases others with
      | nil =>
        obtain ⟨-, rfl⟩ := List.cons.inj hrest
        simp
      | cons c others =>
        obtain ⟨rfl, -⟩ := List.cons.inj hrest
        exact absurd (by simp) h
  · intro hmem
    obtain ⟨name, rest, rfl⟩ := List.append_of_mem hmem
    exact ⟨before, name, rest, rfl⟩

/-- A text is plain, or begins with a first group. -/
theorem group_cases (s : List Char) : ¬HasGroup s ∨
    ∃ before name after, s = before ++ '\x7b' :: (name ++ '\x7d' :: after) ∧
      '\x7b' ∉ before ∧ '\x7d' ∉ name := by
  cases hopen : splitAt? '\x7b' s with
  | none =>
    refine .inl fun h => splitAt?_eq_none_iff.1 hopen ?_
    obtain ⟨before, name, after, rfl⟩ := h
    simp
  | some parts =>
    obtain ⟨before, after⟩ := parts
    have hbefore := notMem_of_splitAt? hopen
    obtain rfl := eq_append_of_splitAt? hopen
    rw [hasGroup_append_iff hbefore]
    cases hclose : splitAt? '\x7d' after with
    | none => exact .inl (splitAt?_eq_none_iff.1 hclose)
    | some parts =>
      obtain ⟨name, rest⟩ := parts
      obtain rfl := eq_append_of_splitAt? hclose
      exact .inr ⟨before, name, rest, rfl, hbefore, notMem_of_splitAt? hclose⟩

namespace Template

theorem ofChars_plain {s : List Char} (h : ¬HasGroup s) : ofChars s = [.literal s] := by
  rw [ofChars]
  split
  · rfl
  · next before after hopen =>
    split
    · rfl
    · next name rest hclose =>
      obtain rfl := eq_append_of_splitAt? hopen
      obtain rfl := eq_append_of_splitAt? hclose
      exact absurd ⟨before, name, rest, rfl⟩ h

theorem ofChars_group {before name : List Char} (hbefore : '\x7b' ∉ before)
    (hname : '\x7d' ∉ name) (after : List Char) :
    ofChars (before ++ '\x7b' :: (name ++ '\x7d' :: after)) =
      .literal before :: .parameter name :: ofChars after := by
  have hopen := splitAt?_append hbefore (name ++ '\x7d' :: after)
  have hclose := splitAt?_append hname after
  rw [ofChars]
  split
  · next hnone =>
    rw [hopen] at hnone
    cases hnone
  · next heq =>
    rw [hopen] at heq
    cases heq
    split
    · next hnone =>
      rw [hclose] at hnone
      cases hnone
    · next heq =>
      rw [hclose] at heq
      cases heq
      rfl

/-- The names of the parameters as they are written. -/
def names (t : Template) : List (List Char) := t.parameters.map String.toList

theorem names_plain {s : List Char} (h : ¬HasGroup s) : (ofChars s).names = [] := by
  rw [ofChars_plain h]
  rfl

theorem names_group {before name : List Char} (hbefore : '\x7b' ∉ before)
    (hname : '\x7d' ∉ name) (after : List Char) :
    (ofChars (before ++ '\x7b' :: (name ++ '\x7d' :: after))).names =
      name :: (ofChars after).names := by
  rw [ofChars_group hbefore hname]
  simp [names, parameters]

/-- What is put in the places of its names is taken by the pieces of a template. -/
theorem take_of_instance {s : List Char} {names : List (List Char)}
    {before text after : List Char} (h : Instance s names text) :
    Element.Take ((ofChars s).flatMap Piece.elements) before text after := by
  induction h generalizing before with
  | verbatim hplain =>
    rw [ofChars_plain hplain, List.flatMap_singleton]
    exact Element.take_map_char.2 rfl
  | @fill first name rest value names text hfirst hname hsome hsegment _ ih =>
    rw [ofChars_group hfirst hname, List.flatMap_cons, List.flatMap_cons]
    refine Element.take_append.2 ⟨first, value ++ text, rfl, Element.take_map_char.2 rfl, ?_⟩
    exact Element.take_append.2 ⟨value, text, rfl, Element.take_singleton.2 ⟨hsome, hsegment⟩, ih⟩

theorem instance_of_take {s before text after : List Char}
    (h : Element.Take ((ofChars s).flatMap Piece.elements) before text after) :
    Instance s (ofChars s).names text := by
  -- on the length of the template: what stands after its first group is shorter
  induction hlength : s.length using Nat.strongRecOn generalizing s before text with
  | _ n ih =>
  rcases group_cases s with hplain | ⟨first, name, rest, rfl, hfirst, hname⟩
  · rw [ofChars_plain hplain, List.flatMap_singleton] at h
    obtain rfl := Element.take_map_char.1 h
    rw [names_plain hplain]
    exact .verbatim hplain
  · rw [ofChars_group hfirst hname, List.flatMap_cons, List.flatMap_cons] at h
    obtain ⟨literal, others, rfl, hliteral, hothers⟩ := Element.take_append.1 h
    obtain ⟨value, last, rfl, hvalue, hlast⟩ := Element.take_append.1 hothers
    obtain rfl := Element.take_map_char.1 hliteral
    obtain ⟨hsome, hsegment⟩ := Element.take_singleton.1 hvalue
    have hshorter : rest.length < n := by
      rw [← hlength]
      simp only [List.length_append, List.length_cons]
      omega
    rw [names_group hfirst hname]
    exact .fill hfirst hname hsome hsegment (ih rest.length hshorter hlast rfl)

end Template

/-! ## What patterns take -/

/-- What a template says, as the elements of its pattern between the anchors. -/
def elements (path : String) : List Element := (Template.ofText path).flatMap Piece.elements

theorem matches_pattern_iff_take {path text : String} :
    Matches (pattern path) text ↔ Element.Take (elements path) [] text.toList [] := by
  rw [Matches, pattern, String.toList_ofList, ofPattern?_pattern]
  constructor
  · rintro ⟨es, ⟨⟩, htake⟩
    exact (Element.take_anchored.1 htake).2.2
  · exact fun h => ⟨_, rfl, Element.take_anchored.2 ⟨rfl, rfl, h⟩⟩

theorem matches_pattern_iff (path text : String) :
    Matches (pattern path) text ↔
      Instance path.toList (Template.ofText path).names text.toList := by
  rw [matches_pattern_iff_take]
  exact ⟨Template.instance_of_take, Template.take_of_instance⟩

/-- Its anchors keep the pattern of a template from occurring in a text that it does not take
as a whole. -/
theorem occurs_pattern_iff (path text : String) :
    Occurs (pattern path) text ↔ Matches (pattern path) text := by
  constructor
  · rintro ⟨es, hread, before, part, after, htext, htake⟩
    refine ⟨es, hread, ?_⟩
    rw [pattern, String.toList_ofList, ofPattern?_pattern] at hread
    cases hread
    obtain ⟨rfl, rfl, hpart⟩ := Element.take_anchored.1 htake
    rw [htext, List.nil_append, List.append_nil]
    exact htake
  · rintro ⟨es, hread, htake⟩
    exact ⟨es, hread, [], text.toList, [], by simp, htake⟩

/-- A template without parameters stands for itself alone. -/
theorem instance_of_not_hasParameters {path text : String} (h : hasParameters path = false) :
    Instance path.toList (Template.ofText path).names text.toList ↔ text = path := by
  have hplain : ¬HasGroup path.toList := by
    rcases group_cases path.toList with hplain | ⟨before, name, after, hpath, hbefore, hname⟩
    · exact hplain
    · have hnames : (Template.ofText path).names = [] := by
        rw [hasParameters, Bool.not_eq_false', List.isEmpty_iff] at h
        rw [Template.names, ← parameters, h, List.map_nil]
      rw [Template.ofText, hpath, Template.names_group hbefore hname] at hnames
      cases hnames
  rw [Template.ofText, Template.names_plain hplain, ← String.toList_inj]
  generalize path.toList = p at hplain
  constructor
  · intro h
    cases h
    rfl
  · rintro rfl
    exact .verbatim hplain

end Path

/-! ## Requests -/

/-- Whether a path meets a criterion. Letters in upper and lower case are told apart unless the
match says otherwise; a regular expression always tells them apart. -/
def PathMatch.Accepts (caseSensitive : Bool) (path : String) : PathMatch → Prop
  | startsWith start =>
    if caseSensitive then start.toList <+: path.toList
    else start.toLower.toList <+: path.toLower.toList
  | exact whole => if caseSensitive then path = whole else path.toLower = whole.toLower
  | regex pattern => Path.Matches pattern path

/-- Whether a match takes requests for a path, as far as the path is concerned. -/
def RouteMatch.AcceptsPath (m : RouteMatch) (path : String) : Prop :=
  ∃ p, m.path = some p ∧ p.Accepts (m.caseSensitive.getD true) path

theorem RouteMatch.acceptsPath_iff {m : RouteMatch} {p : PathMatch} {path : String}
    (h : m.path = some p) : m.AcceptsPath path ↔ p.Accepts (m.caseSensitive.getD true) path := by
  rw [AcceptsPath, h]
  simp

/-- Whatever stands in a template, its pattern takes exactly the texts that come of it when its
parameters, from left to right, give way to something that is not empty and has no slash; it
does not occur in any other text; and matching the template by its pattern is the same as
matching it exactly. -/
theorem Path.pattern_takes_instances (path : String) :
    (∀ text, Matches (pattern path) text ↔
      Instance path.toList ((parameters path).map String.toList) text.toList) ∧
    (∀ text, Occurs (pattern path) text ↔ Matches (pattern path) text) ∧
    ∀ method text, (Matching.regex.criteria path method).AcceptsPath text ↔
      (Matching.exact.criteria path method).AcceptsPath text := by
  refine ⟨matches_pattern_iff path, occurs_pattern_iff path, fun method text => ?_⟩
  have hregex : (Matching.regex.criteria path method).AcceptsPath text ↔
      Matches (pattern path) text :=
    RouteMatch.acceptsPath_iff (p := .regex (pattern path)) rfl
  have hexact : (Matching.exact.criteria path method).AcceptsPath text ↔
      (PathMatch.ofTemplate path).Accepts true text := RouteMatch.acceptsPath_iff rfl
  rw [hregex, hexact, PathMatch.ofTemplate]
  by_cases hparameters : hasParameters path = true
  · rw [if_pos hparameters, PathMatch.Accepts]
  · rw [if_neg hparameters, PathMatch.Accepts, if_pos rfl, matches_pattern_iff,
      instance_of_not_hasParameters (eq_false_of_ne_true hparameters)]

end GatewayPlane
