import GatewayPlane.Path.Template

/-!
# Path patterns

The regular expression of a template: anchored at both ends, its text escaped, and one or
more characters other than a slash for each parameter.
-/
namespace GatewayPlane.Path

/-- Whether a character has a meaning of its own in a regular expression. -/
def isMeta (c : Char) : Bool :=
  ['\\', '.', '+', '*', '?', '(', ')', '|', '[', ']', '\x7b', '\x7d', '^', '$', '#', '&', '-',
    '~'].contains c

def escapeMeta (text : List Char) : List Char :=
  text.flatMap fun c => if isMeta c then ['\\', c] else [c]

/-- One or more characters of one path segment. -/
def segmentPattern : List Char := ['[', '^', '/', ']', '+']

def Piece.pattern : Piece → List Char
  | .literal text => escapeMeta text
  | .parameter _ => segmentPattern

def Template.pattern (t : Template) : List Char := '^' :: t.flatMap Piece.pattern ++ ['$']

def pattern (path : String) : String := String.ofList (Template.ofText path).pattern

end GatewayPlane.Path
