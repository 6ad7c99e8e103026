import GatewayPlane.Proofs.Path.Instances
import Mathlib.Data.List.Forall2

/-!
# Templates that take the same texts

Patterns of templates that take the same texts are the same. The shortest texts that a pattern
takes have one character for each of its elements, and tell which character this has to be, or
that it is left open.
-/
namespace GatewayPlane.Path

namespace Element
variable {es es' : List Element} {before text after : List Char}

/-- Whether an element is part of what a template says: a character, or a run without a slash. -/
def IsPiece : Element → Prop
  | char _ => True
  | run excluded => excluded = '/'
  | start | finish => False

/-- The character of an element, or the one that is given where it is left open. -/
def filled (c : Char) : Element → Char
  | char a => a
  | _ => c

theorem takes_filled {e : Element} (he : e.IsPiece) {c : Char} (hc : c ≠ '/') :
    e.Takes before [e.filled c] after := by
  cases e with
  | start | finish => exact he.elim
  | char a => rfl
  | run excluded =>
    obtain rfl : excluded = '/' := he
    exact ⟨List.cons_ne_nil _ _, by simpa [filled] using hc.symm⟩

/-- A shortest text that elements take. -/
theorem take_map_filled (hes : ∀ e ∈ es, e.IsPiece) {c : Char} (hc : c ≠ '/') :
    Take es before (es.map (filled c)) after := by
  induction es generalizing before with
  | nil => rfl
  | cons e rest ih =>
    obtain ⟨he, hrest⟩ := List.forall_mem_cons.1 hes
    exact ⟨[e.filled c], rest.map (filled c), rfl, takes_filled he hc, ih hrest⟩

theorem IsPiece.length_pos {e : Element} (he : e.IsPiece) (h : e.Takes before text after) :
    1 ≤ text.length := by
  cases e with
  | start | finish => exact he.elim
  | char a =>
    obtain rfl : text = [a] := h
    exact Nat.le_refl _
  | run excluded => exact List.length_pos_iff.2 h.1

theorem length_le_of_take (hes : ∀ e ∈ es, e.IsPiece) (h : Take es before text after) :
    es.length ≤ text.length := by
  induction es generalizing before text with
  | nil => exact Nat.zero_le _
  | cons e rest ih =>
    obtain ⟨he, hrest⟩ := List.forall_mem_cons.1 hes
    obtain ⟨first, others, rfl, htakes, hothers⟩ := h
    have hfirst := he.length_pos htakes
    have hlater := ih hrest hothers
    rw [List.length_append, List.length_cons]
    omega

/-- Elements that take a text of their number take one character each. -/
theorem forall₂_of_take (hes : ∀ e ∈ es, e.IsPiece) (h : Take es before text after)
    (hlength : text.length = es.length) :
    List.Forall₂ (fun e c => ∃ before after, e.Takes before [c] after) es text := by
  induction es generalizing before text with
  | nil =>
    obtain rfl : text = [] := h
    exact .nil
  | cons e rest ih =>
    obtain ⟨he, hrest⟩ := List.forall_mem_cons.1 hes
    obtain ⟨first, others, rfl, htakes, hothers⟩ := h
    have hfirst := he.length_pos htakes
    have hlater := length_le_of_take hrest hothers
    rw [List.length_append, List.length_cons] at hlength
    obtain ⟨c, rfl⟩ := List.length_eq_one_iff.1 (show first.length = 1 by omega)
    exact .cons ⟨_, _, htakes⟩ (ih hrest hothers (by simpa [Nat.add_comm] using hlength))

/-- Two elements are the same when each takes what the other is filled with, whatever that is. -/
theorem eq_of_takes_filled {e e' : Element} (he : e.IsPiece) (he' : e'.IsPiece)
    (h : ∀ c, c ≠ '/' → ∃ before after, e'.Takes before [e.filled c] after)
    (h' : ∀ c, c ≠ '/' → ∃ before after, e.Takes before [e'.filled c] after) : e = e' := by
  obtain ⟨_, _, ha⟩ := h 'a' (by decide)
  obtain ⟨_, _, hb⟩ := h 'b' (by decide)
  obtain ⟨_, _, ha'⟩ := h' 'a' (by decide)
  obtain ⟨_, _, hb'⟩ := h' 'b' (by decide)
  cases e with
  | start | finish => exact he.elim
  | char a =>
    cases e' with
    | start | finish => exact he'.elim
    | char a' => exact congrArg char (List.cons.inj ha).1
    | run excluded =>
      have hsame : ['a'] = ['b'] := Eq.trans ha' hb'.symm
      cases hsame
  | run excluded =>
    cases e' with
    | start | finish => exact he'.elim
    | char a' =>
      have hsame : ['a'] = ['b'] := Eq.trans ha hb.symm
      cases hsame
    | run excluded' => rw [show excluded = '/' from he, show excluded' = '/' from he']

theorem eq_of_take_iff (hes : ∀ e ∈ es, e.IsPiece) (hes' : ∀ e ∈ es', e.IsPiece)
    (h : ∀ text, Take es [] text [] ↔ Take es' [] text []) : es = es' := by
  have htake (c : Char) (hc : c ≠ '/') := (h _).1 (take_map_filled hes hc)
  have hother (c : Char) (hc : c ≠ '/') := (h _).2 (take_map_filled hes' hc)
  have hlength : es.length = es'.length := by
    have hle := length_le_of_take hes' (htake 'a' (by decide))
    have hle' := length_le_of_take hes (hother 'a' (by decide))
    rw [List.length_map] at hle hle'
    exact Nat.le_antisymm hle' hle
  refine List.ext_getElem hlength fun i hi hi' => ?_
  refine eq_of_takes_filled (hes _ (List.getElem_mem hi)) (hes' _ (List.getElem_mem hi'))
    (fun c hc => ?_) fun c hc => ?_
  · have hall := forall₂_of_take hes' (htake c hc) (by rw [List.length_map, hlength])
    simpa using (List.forall₂_iff_get.1 hall).2 i hi' (by simpa using hi)
  · have hall := forall₂_of_take hes (hother c hc) (by rw [List.length_map, hlength])
    simpa using (List.forall₂_iff_get.1 hall).2 i hi (by simpa using hi')

/-- How an element is written. -/
def written : Element → List Char
  | start => ['^']
  | finish => ['$']
  | char c => escapeMeta [c]
  | run _ => segmentPattern

def isRun : Element → Bool
  | run _ => true
  | _ => false

end Element

/-! ## Templates -/

theorem isPiece_of_mem_elements {path : String} : ∀ e ∈ elements path, e.IsPiece := by
  intro e he
  obtain ⟨p, -, hp⟩ := List.mem_flatMap.1 he
  cases p with
  | literal text =>
    obtain ⟨c, -, rfl⟩ := List.mem_map.1 hp
    exact trivial
  | parameter name =>
    rw [List.mem_singleton.1 hp]
    rfl

theorem Template.flatMap_pattern (t : Template) :
    t.flatMap Piece.pattern = (t.flatMap Piece.elements).flatMap Element.written := by
  have hpiece (p : Piece) : p.pattern = p.elements.flatMap Element.written := by
    cases p with
    | literal text =>
      rw [Piece.pattern, Piece.elements, List.flatMap_map, escapeMeta]
      refine congrArg (List.flatMap · text) (funext fun c => ?_)
      simp [Element.written, escapeMeta]
    | parameter name => rfl
  rw [List.flatMap_assoc]
  exact congrArg (List.flatMap · t) (funext hpiece)

/-- Templates have the same pattern when they say the same. -/
theorem pattern_eq_iff {path path' : String} :
    pattern path = pattern path' ↔ elements path = elements path' := by
  constructor
  · intro h
    have hread := congrArg (fun s => Element.ofPattern? s.toList) h
    simp only [pattern, String.toList_ofList, ofPattern?_pattern, Option.some.injEq,
      List.cons_append, List.cons.injEq, true_and] at hread
    exact List.append_cancel_right hread
  · intro h
    rw [pattern, pattern, Template.pattern, Template.pattern, Template.flatMap_pattern,
      Template.flatMap_pattern, ← elements, ← elements, h]

/-- Templates that take the same texts say the same. -/
theorem elements_eq_iff {path path' : String} : elements path = elements path' ↔
    ∀ text, Matches (pattern path) text ↔ Matches (pattern path') text := by
  constructor
  · intro h text
    rw [pattern_eq_iff.2 h]
  · intro h
    refine Element.eq_of_take_iff isPiece_of_mem_elements isPiece_of_mem_elements fun text => ?_
    have htext := h (String.ofList text)
    rwa [matches_pattern_iff_take, matches_pattern_iff_take, String.toList_ofList] at htext

theorem hasParameters_eq (path : String) :
    hasParameters path = (elements path).any Element.isRun := by
  rw [hasParameters, parameters, elements]
  generalize Template.ofText path = t
  induction t with
  | nil => rfl
  | cons p t ih =>
    rw [List.flatMap_cons, List.any_append, ← ih]
    cases p with
    | literal text => simp [Template.parameters, Piece.elements, Element.isRun]
    | parameter name => simp [Template.parameters, Piece.elements, Element.isRun]

theorem matches_of_not_hasParameters {path text : String} (h : hasParameters path = false) :
    Matches (pattern path) text ↔ text = path := by
  rw [matches_pattern_iff, instance_of_not_hasParameters h]

end GatewayPlane.Path
