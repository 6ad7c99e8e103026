import GatewayPlane.Wire.Field

/-!
# Schemas

What the fields of each type of message hold, and the reader that goes by it. A field of
another form than its own is an error, and so is a text that is not UTF-8, wherever in a
message they stand. Fields of unknown numbers are skipped, groups included.
-/
namespace GatewayPlane.Wire

/-- What a field of a message holds; `σ` names the types of messages. -/
inductive FieldType (σ : Type) where
  | number
  /-- Numbers one to a field or packed. -/
  | numbers
  | fixed32
  | fixed64
  | text
  | bytes
  | message (type : σ)
  /-- Values by their names, each entry a message. -/
  | entries (value : FieldType σ)
  deriving Repr

/-- The fields of a type of message by their numbers. -/
abbrev Shape (σ : Type) := List (Nat × FieldType σ)

abbrev Schema (σ : Type) := σ → Shape σ

/-- How deep messages and groups may nest. -/
def nestingLimit : Nat := 100

/-- All varints of a packed list. Each takes at least one byte. -/
def readPacked : Nat → Bytes → Option (List Nat)
  | _, [] => some []
  | 0, _ :: _ => none
  | fuel + 1, bytes => do
    let (n, rest) ← readVarint bytes
    return n :: (← readPacked fuel rest)

/-- The reader of messages one level below, if there may be one. -/
abbrev Below (σ : Type) := Option (Shape σ → Bytes → Option (List Field))

namespace FieldType
variable {σ : Type}

/-- The payload of a field, and the rest. An entry is read whatever its form. -/
def read (schema : Schema σ) (below : Below σ) (form : Form) (input : Bytes) :
    FieldType σ → Option (Payload × Bytes)
  | number => do
    if form ≠ .varint then none
    let (n, rest) ← readVarint input
    return (.number n, rest)
  | numbers =>
    match form with
    | .varint => (readVarint input).map fun (n, rest) => (.numbers [n], rest)
    | .delimited => do
      let (packed, rest) ← readDelimited input
      return (.numbers (← readPacked packed.length packed), rest)
    | _ => none
  | fixed32 => do
    if form ≠ .fixed32 then none
    let (word, rest) ← readBytes 4 input
    return (.fixed32 word, rest)
  | fixed64 => do
    if form ≠ .fixed64 then none
    let (word, rest) ← readBytes 8 input
    return (.fixed64 word, rest)
  | text => do
    if form ≠ .delimited then none
    let (content, rest) ← readDelimited input
    return (.text (← toText? content), rest)
  | bytes => do
    if form ≠ .delimited then none
    let (content, rest) ← readDelimited input
    return (.bytes content, rest)
  | message type => do
    if form ≠ .delimited then none
    let (content, rest) ← readDelimited input
    return (.message (← (← below) (schema type) content), rest)
  | entries value => do
    let (content, rest) ← readDelimited input
    return (.message (← (← below) [(1, text), (2, value)] content), rest)

end FieldType

namespace Shape
variable {σ : Type}

/-- The known fields of a message, in order. The fuel bounds the number of keys. -/
def readFields (schema : Schema σ) (below : Below σ) (limit : Nat) (shape : Shape σ) :
    Nat → Bytes → Option (List Field)
  | _, [] => some []
  | 0, _ :: _ => none
  | fuel + 1, bytes => do
    let (number, form, rest) ← readKey bytes
    match shape.lookup number with
    | none =>
      let rest ← skipField limit number form rest
      readFields schema below limit shape fuel rest
    | some type =>
      let (payload, rest) ← type.read schema below form rest
      let fields ← readFields schema below limit shape fuel rest
      return (number, payload) :: fields

/-- Reads a message of a shape in which `limit` levels of nesting are left. -/
def read (schema : Schema σ) : Nat → Shape σ → Bytes → Option (List Field)
  | 0, shape, bytes => readFields schema none 0 shape bytes.length bytes
  | limit + 1, shape, bytes =>
    readFields schema (some (read schema limit)) (limit + 1) shape bytes.length bytes

end Shape

/-- Reads a message of a type. -/
def decode {σ : Type} (schema : Schema σ) (type : σ) (bytes : Bytes) : Option (List Field) :=
  (schema type).read schema nestingLimit bytes

end GatewayPlane.Wire
