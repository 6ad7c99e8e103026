import GatewayPlane.Json.Reader
import GatewayPlane.Text.Digit

/-!
# Socket addresses

An address of a network interface and a port, and the text of both. The four numbers of a
short address have no leading zeros. Of a long address the longest run of two or more zero
groups is left out, the first of equally long ones; short addresses mapped into it keep
their own form.
-/
namespace GatewayPlane

inductive SocketAddress where
  | v4 (octets : List UInt8) (port : UInt16)
  | v6 (groups : List UInt16) (scope : UInt32) (port : UInt16)
  deriving DecidableEq, Repr, Inhabited

namespace SocketAddress

/-- A reader of the front of a text, with the rest. -/
abbrev Reader (α : Type) := List Char → Option (α × List Char)

def readChar (c : Char) : List Char → Option (List Char)
  | d :: rest => if c = d then some rest else none
  | [] => none

/-- A run of digits, all that there are. -/
def readDigits (base : Nat) (text : List Char) : List Char × List Char :=
  (text.takeWhile (Text.isDigitBelow base), text.dropWhile (Text.isDigitBelow base))

/-- A number below a bound. -/
def readNumber (base bound : Nat) : Reader Nat := fun text =>
  let (digits, rest) := readDigits base text
  let n := Text.digitsValue base digits
  if digits ≠ [] ∧ n < bound then some (n, rest) else none

/-- A number below 256 without leading zeros. -/
def readOctet : Reader UInt8 := fun text =>
  match readDigits 10 text with
  | ('0' :: _ :: _, _) => none
  | _ => (readNumber 10 256 text).map fun (n, rest) => (n.toUInt8, rest)

def readOctets : Reader (List UInt8) := fun text => do
  let (a, text) ← readOctet text
  let (b, text) ← readOctet (← readChar '.' text)
  let (c, text) ← readOctet (← readChar '.' text)
  let (d, text) ← readOctet (← readChar '.' text)
  return ([a, b, c, d], text)

/-- At most four digits of base sixteen. -/
def readGroup : Reader UInt16 := fun text =>
  if (readDigits 16 text).1.length ≤ 4 then
    (readNumber 16 UInt16.size text).map fun (n, rest) => (n.toUInt16, rest)
  else none

/-- Two groups that stand for a short address. -/
def groupsOfOctets : List UInt8 → List UInt16
  | a :: b :: rest => (256 * a.toUInt16 + b.toUInt16) :: groupsOfOctets rest
  | _ => []

/-- Reads past a colon, except at the front. -/
def readSeparator (isFirst : Bool) (text : List Char) : Option (List Char) :=
  if isFirst then some text else readChar ':' text

/-- Reads at most so many groups, with colons between them; a short address may stand for
the last two, and then there are no others. -/
def readGroups : Nat → Bool → List Char → List UInt16 × Bool × List Char
  | 0, _, text => ([], false, text)
  | limit + 1, isFirst, text =>
    match readSeparator isFirst text with
    | none => ([], false, text)
    | some inner =>
      match if limit = 0 then none else readOctets inner with
      | some (octets, rest) => (groupsOfOctets octets, true, rest)
      | none =>
        match readGroup inner with
        | none => ([], false, text)
        | some (g, rest) =>
          let (groups, isMixed, rest) := readGroups limit false rest
          (g :: groups, isMixed, rest)

/-- Eight groups; two colons stand for at least one group that is zero. -/
def readAllGroups : Reader (List UInt16) := fun text => do
  let (head, isMixed, rest) := readGroups 8 true text
  if head.length = 8 then return (head, rest)
  if isMixed then none
  let rest ← readChar ':' (← readChar ':' rest)
  let (tail, _, rest) := readGroups (7 - head.length) true rest
  return (head ++ List.replicate (8 - head.length - tail.length) 0 ++ tail, rest)

def readPort : Reader UInt16 := fun text => do
  let (n, rest) ← readNumber 10 UInt16.size (← readChar ':' text)
  return (n.toUInt16, rest)

def readScope : Reader UInt32 := fun text =>
  match readChar '%' text with
  | none => some (0, text)
  | some text => (readNumber 10 UInt32.size text).map fun (n, rest) => (n.toUInt32, rest)

def readShort : Reader SocketAddress := fun text => do
  let (octets, text) ← readOctets text
  let (port, text) ← readPort text
  return (v4 octets port, text)

def readLong : Reader SocketAddress := fun text => do
  let (groups, text) ← readAllGroups (← readChar '[' text)
  let (scope, text) ← readScope text
  let (port, text) ← readPort (← readChar ']' text)
  return (v6 groups scope port, text)

def parse? (text : String) : Option SocketAddress :=
  match readShort text.toList <|> readLong text.toList with
  | some (a, []) => some a
  | _ => none

def octetsText (octets : List UInt8) : String :=
  ".".intercalate (octets.map fun n => toString n.toNat)

def groupsText (groups : List UInt16) : String :=
  ":".intercalate (groups.map fun g => String.ofList (Nat.toDigits 16 g.toNat))

/-- The short address that a long one stands for. -/
def mapped? : List UInt16 → Option (List UInt8)
  | [0, 0, 0, 0, 0, 0xffff, a, b] =>
    some [(a >>> 8).toUInt8, a.toUInt8, (b >>> 8).toUInt8, b.toUInt8]
  | _ => none

/-- How many zero groups a list begins with. -/
def leadingZeros (groups : List UInt16) : Nat := (groups.takeWhile (· = 0)).length

/-- Where the longest run of zero groups begins, the first of equally long ones, and its
length. -/
def longestZeros (position : Nat) : List UInt16 → Nat × Nat
  | [] => (position, 0)
  | g :: rest =>
    let here := leadingZeros (g :: rest)
    let later := longestZeros (position + 1) rest
    if later.2 ≤ here then (position, here) else later

def interfaceText (groups : List UInt16) : String :=
  match mapped? groups with
  | some octets => "::ffff:" ++ octetsText octets
  | none =>
    let (start, length) := longestZeros 0 groups
    if 2 ≤ length then
      groupsText (groups.take start) ++ "::" ++ groupsText (groups.drop (start + length))
    else groupsText groups

def text : SocketAddress → String
  | v4 octets port => s!"{octetsText octets}:{port.toNat}"
  | v6 groups scope port =>
    let scopeText := if scope = 0 then "" else s!"%{scope.toNat}"
    s!"[{interfaceText groups}{scopeText}]:{port.toNat}"

def ofJson? (value : Json) : Option SocketAddress := Json.string? value >>= parse?

def toJson (a : SocketAddress) : Json := .string a.text

end SocketAddress

end GatewayPlane
