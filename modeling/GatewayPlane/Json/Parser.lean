import GatewayPlane.Decimal.Numeral
import GatewayPlane.Json.Basic

/-!
# Reading JSON text

A reader of one document. Of two members with one name the last wins, and an integer
that no 64-bit word holds is read as a double.
-/
namespace GatewayPlane.Json

def skipSpace (s : List Char) : List Char :=
  s.dropWhile fun c => c == ' ' || c == '\t' || c == '\n' || c == '\r'

/-- The code unit that four hexadecimal digits write, and the rest. -/
def readUnit : List Char → Option (Nat × List Char)
  | a :: b :: c :: d :: rest => do
    let digits ← [a, b, c, d].mapM Text.digitValue?
    return (digits.foldl (fun n digit => 16 * n + digit) 0, rest)
  | _ => none

/-- The character of an escape `\u`, of two units when the first is a high surrogate. -/
def readCodePoint (s : List Char) : Option (Char × List Char) := do
  let (first, rest) ← readUnit s
  if 0xd800 ≤ first ∧ first < 0xdc00 then
    match rest with
    | '\\' :: 'u' :: rest =>
      let (second, rest) ← readUnit rest
      if 0xdc00 ≤ second ∧ second < 0xe000 then
        return (Char.ofNat (0x10000 + (first - 0xd800) * 0x400 + (second - 0xdc00)), rest)
      else none
    | _ => none
  else if 0xdc00 ≤ first ∧ first < 0xe000 then none
  else return (Char.ofNat first, rest)

def simpleEscape? : Char → Option Char
  | '"' => some '"'
  | '\\' => some '\\'
  | '/' => some '/'
  | 'b' => some '\x08'
  | 'f' => some '\x0c'
  | 'n' => some '\n'
  | 'r' => some '\r'
  | 't' => some '\t'
  | _ => none

/-- The text after an opening quote, up to the closing one. -/
def readText : Nat → List Char → Option (List Char × List Char)
  | 0, _ => none
  | _ + 1, [] => none
  | _ + 1, '"' :: rest => some ([], rest)
  | fuel + 1, '\\' :: 'u' :: rest => do
    let (c, rest) ← readCodePoint rest
    let (text, rest) ← readText fuel rest
    return (c :: text, rest)
  | fuel + 1, '\\' :: e :: rest => do
    let c ← simpleEscape? e
    let (text, rest) ← readText fuel rest
    return (c :: text, rest)
  | fuel + 1, c :: rest => do
    if c == '\\' || c.toNat < 0x20 then none
    else
      let (text, rest) ← readText fuel rest
      return (c :: text, rest)

def readString (s : List Char) : Option (String × List Char) :=
  (readText (s.length + 1) s).map fun (text, rest) => (String.ofList text, rest)

/-- At least one digit. -/
def readDigits (s : List Char) : Option (List Char × List Char) :=
  match s.takeWhile Char.isDigit with
  | [] => none
  | digits => some (digits, s.dropWhile Char.isDigit)

def readFraction : List Char → Option (Option (List Char) × List Char)
  | '.' :: rest => (readDigits rest).map fun (digits, rest) => (some digits, rest)
  | s => some (none, s)

def readExponent : List Char → Option (Option Int × List Char)
  | c :: rest =>
    if c == 'e' || c == 'E' then
      let (negative, rest) := match rest with
        | '-' :: rest => (true, rest)
        | '+' :: rest => (false, rest)
        | _ => (false, rest)
      (readDigits rest).map fun (digits, rest) =>
        let n : Int := Text.digitsValue 10 digits
        (some (if negative then -n else n), rest)
    else some (none, c :: rest)
  | [] => some (none, [])

/-- An integer is kept when a signed or unsigned 64-bit word holds it; negative zero is a
double. -/
def integer? (negative : Bool) (n : Nat) : Option Json :=
  if negative then if n = 0 ∨ UInt64.size < 2 * n then none else some (.integer (-(n : Int)))
  else if n < UInt64.size then some (.integer n)
  else none

/-- A double that is not beyond the greatest. -/
def double? (negative : Bool) (numeral : Decimal.Numeral) : Option Json :=
  numeral.toDouble?.map fun x => .float (if negative then -x else x)

def readNumber (s : List Char) : Option (Json × List Char) := do
  let (negative, s) := match s with
    | '-' :: rest => (true, rest)
    | _ => (false, s)
  let (whole, s) ← readDigits s
  if whole.length > 1 && whole.head? == some '0' then none
  let (fraction, s) ← readFraction s
  let (exponent, s) ← readExponent s
  let kept := match fraction, exponent with
    | none, none => integer? negative (Text.digitsValue 10 whole)
    | _, _ => none
  match kept with
  | some n => return (n, s)
  | none =>
    let numeral := Decimal.Numeral.ofDigits whole (fraction.getD []) (exponent.getD 0)
    return (← double? negative numeral, s)

def literal? (word : List Char) (value : Json) (s : List Char) : Option (Json × List Char) :=
  if word.isPrefixOf s then some (value, s.drop word.length) else none

mutual

def readValue : Nat → List Char → Option (Json × List Char)
  | 0, _ => none
  | fuel + 1, s =>
    match skipSpace s with
    | [] => none
    | '"' :: rest => (readString rest).map fun (text, rest) => (.string text, rest)
    | '[' :: rest =>
      match skipSpace rest with
      | ']' :: rest => some (.array [], rest)
      | _ => (readItems fuel rest).map fun (items, rest) => (.array items, rest)
    | '\x7b' :: rest =>
      match skipSpace rest with
      | '\x7d' :: rest => some (.object [], rest)
      | _ => (readMembers fuel [] rest).map fun (members, rest) => (.object members, rest)
    | 'n' :: rest => literal? ['u', 'l', 'l'] .null rest
    | 't' :: rest => literal? ['r', 'u', 'e'] (.bool true) rest
    | 'f' :: rest => literal? ['a', 'l', 's', 'e'] (.bool false) rest
    | s => readNumber s

/-- The items up to the closing bracket; there is at least one. -/
def readItems : Nat → List Char → Option (List Json × List Char)
  | 0, _ => none
  | fuel + 1, s => do
    let (item, rest) ← readValue fuel s
    match skipSpace rest with
    | ',' :: rest =>
      let (items, rest) ← readItems fuel rest
      return (item :: items, rest)
    | ']' :: rest => return ([item], rest)
    | _ => none

/-- The members up to the closing brace, after those in `seen`. -/
def readMembers : Nat → List (String × Json) → List Char →
    Option (List (String × Json) × List Char)
  | 0, _, _ => none
  | fuel + 1, seen, s => do
    let '"' :: rest := skipSpace s | none
    let (name, rest) ← readString rest
    let ':' :: rest := skipSpace rest | none
    let (value, rest) ← readValue fuel rest
    let seen := setMember seen name value
    match skipSpace rest with
    | ',' :: rest => readMembers fuel seen rest
    | '\x7d' :: rest => return (seen, rest)
    | _ => none

end

/-- Reads one document with nothing but space around it. Each level of the recursion
takes a character, so the length of the text bounds its depth. -/
def parse? (text : String) : Option Json :=
  let s := text.toList
  match readValue (2 * s.length + 2) s with
  | some (value, rest) => if (skipSpace rest).isEmpty then some value else none
  | none => none

end GatewayPlane.Json
