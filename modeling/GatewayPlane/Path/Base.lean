import GatewayPlane.Text.Blank

/-!
# Base paths

The path under which an API is mounted, in one form whatever way it was written, and the
paths of its operations below it.
-/
namespace GatewayPlane.Path

def isSlash (c : Char) : Bool := c == '/'

/-- One slash before what is left without white space, then slashes, around it. -/
def normalizeChars (path : List Char) : List Char :=
  '/' :: Text.strip isSlash (Text.strip Text.isBlank path)

def normalize (path : String) : String := String.ofList (normalizeChars path.toList)

def joinChars (base pattern : List Char) : List Char :=
  let base := normalizeChars base
  let tail := (Text.strip Text.isBlank pattern).dropWhile isSlash
  match base, tail with
  | base, [] => base
  | ['/'], tail => '/' :: tail
  | base, tail => base ++ '/' :: tail

/-- The path of an operation below a base path. -/
def join (base pattern : String) : String := String.ofList (joinChars base.toList pattern.toList)

end GatewayPlane.Path
