import GatewayPlane.Text.Digit

/-!
# Numerals as doubles

A decimal numeral stands for a double near it, found in two steps: its digits as a whole
number, as many of them as a 64-bit word holds, become the nearest double, and that is
multiplied with or divided by the double nearest to a power of ten. Each step rounds once,
so the result is the nearest double when both are exact, and else may be its neighbour.
-/
namespace GatewayPlane.Decimal

/-- The number `mantissa * 10 ^ exponent`. -/
structure Numeral where
  mantissa : UInt64
  exponent : Int
  deriving DecidableEq, Repr, Inhabited

namespace Numeral

/-- Appends digits to a number for as long as a 64-bit word holds it, and says how many are
left out. -/
def appendDigits (n : Nat) : List Char → Nat × Nat
  | [] => (n, 0)
  | c :: rest =>
    let longer := 10 * n + (Text.digitValue? c).getD 0
    if longer < UInt64.size then appendDigits longer rest else (n, rest.length + 1)

/-- The numeral of the digits before and after the point and of an exponent. Digits that
are left out before the point count as zeros. -/
def ofDigits (whole places : List Char) (exponent : Int) : Numeral :=
  let (n, omitted) := appendDigits 0 whole
  let (n, dropped) := appendDigits n places
  ⟨n.toUInt64, exponent + omitted - (places.length - dropped : Nat)⟩

/-- The greatest exponent of a power of ten that a double holds. -/
def maxPower : Nat := 308

/-- The double nearest to a power of ten. -/
def powerOfTen (n : Nat) : Float := Float.ofScientific 1 false n

/-- The double that a numeral stands for, unless it is beyond the greatest. Below the least
power of ten the division has two steps; what is left after those is zero. -/
def toDouble? (x : Numeral) : Option Float :=
  let m := x.mantissa.toFloat
  let size := x.exponent.natAbs
  if 0 ≤ x.exponent then
    if x.mantissa = 0 then some 0
    else if size ≤ maxPower then (some (m * powerOfTen size)).filter Float.isFinite
    else none
  else if size ≤ maxPower then some (m / powerOfTen size)
  else if size ≤ 2 * maxPower then some (m / powerOfTen maxPower / powerOfTen (size - maxPower))
  else some 0

end Numeral

end GatewayPlane.Decimal
