/-!
# Snapshot versions

A version is a 64-bit number. Versions start at one, and the last one is its own
successor.
-/
namespace GatewayPlane

structure Version where
  number : UInt64
  deriving DecidableEq, Repr, Inhabited

namespace Version

def initial : Version := ⟨1⟩

def next (v : Version) : Version := ⟨if v.number.toNat + 1 < UInt64.size then v.number + 1 else v.number⟩

instance : LT Version := ⟨fun a b => a.number < b.number⟩
instance : LE Version := ⟨fun a b => a.number ≤ b.number⟩
instance (a b : Version) : Decidable (a < b) := inferInstanceAs (Decidable (a.number < b.number))
instance (a b : Version) : Decidable (a ≤ b) := inferInstanceAs (Decidable (a.number ≤ b.number))

theorem lt_iff {a b : Version} : a < b ↔ a.number.toNat < b.number.toNat := UInt64.lt_iff_toNat_lt

theorem le_iff {a b : Version} : a ≤ b ↔ a.number.toNat ≤ b.number.toNat := UInt64.le_iff_toNat_le

theorem le_refl (a : Version) : a ≤ a := le_iff.2 (Nat.le_refl _)

theorem le_of_lt {a b : Version} (h : a < b) : a ≤ b := le_iff.2 (Nat.le_of_lt (lt_iff.1 h))

theorem lt_of_le_of_lt {a b c : Version} (h : a ≤ b) (h' : b < c) : a < c :=
  lt_iff.2 (Nat.lt_of_le_of_lt (le_iff.1 h) (lt_iff.1 h'))

theorem lt_trans {a b c : Version} (h : a < b) (h' : b < c) : a < c :=
  lt_of_le_of_lt (le_of_lt h) h'

theorem lt_irrefl (a : Version) : ¬a < a := fun h => Nat.lt_irrefl _ (lt_iff.1 h)

def text (v : Version) : String := toString v.number.toNat

/-- Why a text is no version. -/
inductive TextFault where
  | empty
  | notDecimal
  | tooLarge
  deriving DecidableEq, Repr

def TextFault.message : TextFault → String
  | empty => "cannot parse integer from empty string"
  | notDecimal => "invalid digit found in string"
  | tooLarge => "number too large to fit in target type"

/-- Reads digits up to the first fault. -/
def readDigits : Nat → List Char → Except TextFault Nat
  | n, [] => .ok n
  | n, c :: rest =>
    if c.isDigit then
      let n := 10 * n + (c.toNat - '0'.toNat)
      if n < UInt64.size then readDigits n rest else .error .tooLarge
    else .error .notDecimal

/-- Decimal digits, after an optional plus sign. -/
def parse (text : String) : Except TextFault Version :=
  match text.toList with
  | [] => .error .empty
  | ['+'] => .error .notDecimal
  | '+' :: digits => (readDigits 0 digits).map fun n => ⟨n.toUInt64⟩
  | digits => (readDigits 0 digits).map fun n => ⟨n.toUInt64⟩

end Version

end GatewayPlane
