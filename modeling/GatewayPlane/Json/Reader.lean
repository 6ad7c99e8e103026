import GatewayPlane.Json.Basic
import GatewayPlane.NameMap

/-!
# Reading structures from JSON

Readers of the parts that documents are made of. A structure is an object, or an array of
its members in their declared order; a member that may be absent may also be null.
-/
namespace GatewayPlane.Json

abbrev Reader (α : Type) := Json → Option α

/-- The members of a structure whose members have these names. -/
def members? (names : List String) : Reader (List (String × Json))
  | .object members => some members
  | .array items => if items.length ≤ names.length then some (names.zip items) else none
  | _ => none

/-- The members of a structure that has no others than these. -/
def onlyMembers? (names : List String) (value : Json) : Option (List (String × Json)) := do
  let members ← members? names value
  if members.all fun m => names.contains m.1 then some members else none

def field {α : Type} (read : Reader α) (members : List (String × Json)) (name : String) :
    Option α := do
  read (← member? members name)

/-- A member that has a value of its own when it is absent. -/
def fieldOr {α : Type} (read : Reader α) (default : α) (members : List (String × Json))
    (name : String) : Option α :=
  match member? members name with
  | none => some default
  | some value => read value

def fieldMaybe {α : Type} (read : Reader α) (members : List (String × Json)) (name : String) :
    Option (Option α) :=
  match member? members name with
  | none | some .null => some none
  | some value => (read value).map some

def anything : Reader Json := some

def bool? : Reader Bool
  | .bool b => some b
  | _ => none

def string? : Reader String
  | .string s => some s
  | _ => none

def nat? : Reader Nat
  | .integer n => if 0 ≤ n then some n.toNat else none
  | _ => none

/-- An integer below a bound. -/
def natBelow? (bound : Nat) (value : Json) : Option Nat := do
  let n ← nat? value
  if n < bound then some n else none

def uint16? (value : Json) : Option UInt16 := (natBelow? UInt16.size value).map Nat.toUInt16

def uint32? (value : Json) : Option UInt32 := (natBelow? UInt32.size value).map Nat.toUInt32

def uint64? (value : Json) : Option UInt64 := (natBelow? UInt64.size value).map Nat.toUInt64

/-- A double; an integer stands for the double nearest to it. -/
def float? : Reader Float
  | .float x => some x
  | .integer n => some (Float.ofInt n)
  | _ => none

def list? {α : Type} (read : Reader α) : Reader (List α)
  | .array items => items.mapM read
  | _ => none

def nameMap? {α : Type} (read : Reader α) : Reader (NameMap α)
  | .object members =>
    (members.mapM fun m => (read m.2).map fun value => (m.1, value)).map NameMap.ofList
  | _ => none

/-- A choice by its name, or as the name of a single null member. -/
def choice? {α : Type} (choices : List α) (name : α → String) : Reader α
  | .string s => choices.find? fun a => name a == s
  | .object [(s, .null)] => choices.find? fun a => name a == s
  | _ => none

/-- A member, or none where there is no value. -/
def memberOf {α : Type} (write : α → Json) (name : String) : Option α → List (String × Json)
  | none => []
  | some a => [(name, write a)]

def orNull {α : Type} (write : α → Json) : Option α → Json
  | none => .null
  | some a => write a

def ofList {α : Type} (write : α → Json) (l : List α) : Json := .array (l.map write)

def ofStrings (l : List String) : Json := .array (l.map .string)

def ofNat (n : Nat) : Json := .integer n

end GatewayPlane.Json
