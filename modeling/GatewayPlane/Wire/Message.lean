import GatewayPlane.Wire.Schema

/-!
# Messages of fields

What the fields of a message stand for: scalars of which the last counts, texts, lists,
and messages within, whose occurrences are read as one. Scalars with their default value
are not written.
-/
namespace GatewayPlane.Wire

/-! ## Writing -/

/-- A field that is written whatever its value. -/
def number (n : Nat) (value : Nat) : List Field := [(n, .number value)]

def text (n : Nat) (value : String) : List Field := [(n, .text value)]

def message (n : Nat) (fields : List Field) : List Field := [(n, .message fields)]

def numberOrDefault (n : Nat) (value : Nat) : List Field :=
  if value = 0 then [] else number n value

def textOrDefault (n : Nat) (value : String) : List Field :=
  if value = "" then [] else text n value

def bytesOrDefault (n : Nat) (value : Bytes) : List Field :=
  if value = [] then [] else [(n, .bytes value)]

def texts (n : Nat) (values : List String) : List Field := values.flatMap (text n)

def messages {α : Type} (n : Nat) (fields : α → List Field) (values : List α) : List Field :=
  values.flatMap fun a => message n (fields a)

def optional {α : Type} (write : α → List Field) : Option α → List Field
  | none => []
  | some a => write a

/-- A number in a message of its own, so that its absence shows. -/
def boxedNumber (n : Nat) (value : Nat) : List Field := message n (numberOrDefault 1 value)

def boxedFlag (n : Nat) (value : Bool) : List Field := boxedNumber n value.toNat

/-- A list of numbers in one payload. -/
def packedNumbers (n : Nat) (values : List Nat) : List Field :=
  if values = [] then [] else [(n, .numbers values)]

/-! ## Reading -/

namespace Payload

def number? : Payload → Option Nat
  | number n => some n
  | _ => none

def numbers? : Payload → Option (List Nat)
  | numbers l => some l
  | _ => none

def text? : Payload → Option String
  | text s => some s
  | _ => none

def bytes? : Payload → Option Bytes
  | bytes b => some b
  | _ => none

def fields? : Payload → Option (List Field)
  | message fields => some fields
  | _ => none

end Payload

/-- What all fields of a number carry. -/
def payloads {α : Type} (read? : Payload → Option α) (n : Nat) (fields : List Field) : List α :=
  (fields.filter fun f => f.1 = n).filterMap fun f => read? f.2

def lastNumber (n : Nat) (fields : List Field) : Nat :=
  (payloads Payload.number? n fields).getLast?.getD 0

def lastText (n : Nat) (fields : List Field) : String :=
  (payloads Payload.text? n fields).getLast?.getD ""

def lastBytes (n : Nat) (fields : List Field) : Bytes :=
  (payloads Payload.bytes? n fields).getLast?.getD []

def allNumbers (n : Nat) (fields : List Field) : List Nat :=
  (payloads Payload.numbers? n fields).flatten

def allTexts (n : Nat) (fields : List Field) : List String := payloads Payload.text? n fields

def allMessages {α : Type} (read : List Field → α) (n : Nat) (fields : List Field) : List α :=
  (payloads Payload.fields? n fields).map read

/-- The message of a field, all its occurrences read one after the other. -/
def message? {α : Type} (read : List Field → α) (n : Nat) (fields : List Field) : Option α :=
  match payloads Payload.fields? n fields with
  | [] => none
  | parts => some (read parts.flatten)

/-- The member of a choice that stands last, with the fields of its last uninterrupted
run: an earlier run was displaced by another member. -/
def chosen? (members : List Nat) (fields : List Field) : Option (Nat × List Field) :=
  let candidates := (fields.filter fun f => members.contains f.1).reverse
  candidates.head?.map fun last =>
    (last.1, (candidates.takeWhile fun f => f.1 = last.1).reverse)

def boxedNumber? (n : Nat) (fields : List Field) : Option Nat := message? (lastNumber 1) n fields

def boxedFlag? (n : Nat) (fields : List Field) : Option Bool :=
  (boxedNumber? n fields).map (· ≠ 0)

end GatewayPlane.Wire
