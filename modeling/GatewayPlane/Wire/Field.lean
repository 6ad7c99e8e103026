import GatewayPlane.Wire.Varint

/-!
# Message fields

A message is a sequence of numbered fields, each preceded by a key that holds its number
and the form of its payload. Texts, messages within and packed lists share one form, a
count of bytes and that many bytes.
-/
namespace GatewayPlane.Wire

/-- What a field carries. -/
inductive Payload where
  | number (n : Nat)
  /-- A list of numbers, one after the other. -/
  | numbers (l : List Nat)
  | fixed32 (bytes : Bytes)
  | fixed64 (bytes : Bytes)
  | text (s : String)
  | bytes (bytes : Bytes)
  | message (fields : List (Nat × Payload))
  deriving Inhabited

/-- A payload under its number. -/
abbrev Field := Nat × Payload

/-- The form of a payload, in the low bits of the key. -/
inductive Form where
  | varint | fixed64 | delimited | groupStart | groupEnd | fixed32
  deriving DecidableEq, Repr

namespace Form

def code : Form → Nat
  | varint => 0
  | fixed64 => 1
  | delimited => 2
  | groupStart => 3
  | groupEnd => 4
  | fixed32 => 5

def ofCode? : Nat → Option Form
  | 0 => some varint
  | 1 => some fixed64
  | 2 => some delimited
  | 3 => some groupStart
  | 4 => some groupEnd
  | 5 => some fixed32
  | _ => none

end Form

def ofText (s : String) : Bytes := s.toUTF8.toList

def toText? (bytes : Bytes) : Option String := String.fromUTF8? ⟨bytes.toArray⟩

/-! ## Writing -/

def writeKey (number : Nat) (form : Form) : Bytes := writeVarint (8 * number + form.code)

def writeDelimited (number : Nat) (bytes : Bytes) : Bytes :=
  writeKey number .delimited ++ writeVarint bytes.length ++ bytes

mutual

def Payload.encode (number : Nat) : Payload → Bytes
  | .number n => writeKey number .varint ++ writeVarint n
  | .numbers l => writeDelimited number (l.flatMap writeVarint)
  | .fixed32 bytes => writeKey number .fixed32 ++ bytes
  | .fixed64 bytes => writeKey number .fixed64 ++ bytes
  | .text s => writeDelimited number (ofText s)
  | .bytes bytes => writeDelimited number bytes
  | .message fields => writeDelimited number (encode fields)

def encode : List (Nat × Payload) → Bytes
  | [] => []
  | (number, payload) :: rest => payload.encode number ++ encode rest

end

/-! ## Reading -/

/-- A key of 32 bits with a number other than zero. -/
def readKey (bytes : Bytes) : Option (Nat × Form × Bytes) := do
  let (key, rest) ← readVarint bytes
  if key < UInt32.size ∧ 8 ≤ key then
    let form ← Form.ofCode? (key % 8)
    return (key / 8, form, rest)
  else none

/-- A number of bytes, and the rest. -/
def readBytes (count : Nat) (bytes : Bytes) : Option (Bytes × Bytes) :=
  if count ≤ bytes.length then some (bytes.take count, bytes.drop count) else none

/-- A count and that many bytes, and the rest. -/
def readDelimited (bytes : Bytes) : Option (Bytes × Bytes) := do
  let (count, rest) ← readVarint bytes
  readBytes count rest

/-- Skips a payload other than a group. -/
def skipPayload (form : Form) (bytes : Bytes) : Option Bytes :=
  match form with
  | .varint => (readVarint bytes).map (·.2)
  | .delimited => (readDelimited bytes).map (·.2)
  | .fixed64 => (readBytes 8 bytes).map (·.2)
  | .fixed32 => (readBytes 4 bytes).map (·.2)
  | .groupStart | .groupEnd => none

/-- Skips the fields of group `number` and its end. Groups nest at most `limit` deep. The
fuel bounds the number of keys. -/
def skipGroup : Nat → Nat → Nat → Bytes → Option Bytes
  | 0, _, _, _ => none
  | fuel + 1, limit, number, bytes => do
    let (inner, form, rest) ← readKey bytes
    match form, limit with
    | .groupEnd, _ => if inner = number then some rest else none
    | _, 0 => none
    | .groupStart, limit + 1 =>
      let rest ← skipGroup fuel limit inner rest
      skipGroup fuel (limit + 1) number rest
    | form, limit + 1 =>
      let rest ← skipPayload form rest
      skipGroup fuel (limit + 1) number rest

/-- Skips a payload of any form where `limit` levels of nesting are left. -/
def skipField (limit number : Nat) (form : Form) (bytes : Bytes) : Option Bytes :=
  match form, limit with
  | _, 0 => none
  | .groupStart, limit + 1 => skipGroup bytes.length limit number bytes
  | form, _ + 1 => skipPayload form bytes

end GatewayPlane.Wire
