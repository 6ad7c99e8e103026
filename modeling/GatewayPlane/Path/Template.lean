/-!
# Path templates

A path in which names between braces stand for the part of a request's path that fills
them. A brace without a partner is text like any other.
-/
namespace GatewayPlane.Path

/-- The text before the first `mark` and the text after it. -/
def splitAt? (mark : Char) : List Char → Option (List Char × List Char)
  | [] => none
  | c :: rest =>
    if c = mark then some ([], rest)
    else (splitAt? mark rest).map fun (before, after) => (c :: before, after)

theorem eq_append_of_splitAt? {mark : Char} {s before after : List Char}
    (h : splitAt? mark s = some (before, after)) : s = before ++ mark :: after := by
  induction s generalizing before with
  | nil => simp [splitAt?] at h
  | cons c rest ih =>
    unfold splitAt? at h
    split at h
    · next hc =>
      cases hc
      cases h
      rfl
    · obtain ⟨⟨b, a⟩, hb, heq⟩ := Option.map_eq_some_iff.1 h
      cases heq
      rw [ih hb]
      rfl

inductive Piece where
  | literal (text : List Char)
  | parameter (name : List Char)
  deriving DecidableEq, Repr

abbrev Template := List Piece

namespace Template

/-- The pieces of a template, from left to right. -/
def ofChars (s : List Char) : Template :=
  match _hopen : splitAt? '\x7b' s with
  | none => [.literal s]
  | some (before, afterOpen) =>
    match _hclose : splitAt? '\x7d' afterOpen with
    | none => [.literal s]
    | some (name, rest) => .literal before :: .parameter name :: ofChars rest
termination_by s.length
decreasing_by
  rw [eq_append_of_splitAt? _hopen, eq_append_of_splitAt? _hclose]
  simp
  omega

def ofText (path : String) : Template := ofChars path.toList

/-- The names of the parameters, in order and with repetitions. -/
def parameters (t : Template) : List String :=
  t.filterMap fun
    | .literal _ => none
    | .parameter name => some (String.ofList name)

end Template

def parameters (path : String) : List String := (Template.ofText path).parameters

def hasParameters (path : String) : Bool := !(parameters path).isEmpty

end GatewayPlane.Path
