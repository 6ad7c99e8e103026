/-!
# Shortest decimals

The decimal of a binary fraction with the fewest digits that still reads back as it:
the nearest point, within the interval of reals that round to the fraction, of the
coarsest decimal grid that has a point there. Which of two points is taken when both are
equally near is up to whoever writes the number.
-/
namespace GatewayPlane.Decimal

/-- The number `mantissa * 2 ^ exponent`; `narrow` says that the next fraction below is
half as far away as the next above. -/
structure Binary where
  mantissa : Nat
  exponent : Int
  narrow : Bool
  deriving Repr, DecidableEq

/-- The number `digits * 10 ^ exponent`. -/
structure Scientific where
  digits : Nat
  exponent : Int
  deriving Repr, DecidableEq

/-- The choice between the two neighbours that a number lies halfway between. -/
inductive Tie where
  | toEven
  | awayFromZero
  deriving Repr, DecidableEq

/-- Whether a number halfway between `below` and the next goes down. -/
def Tie.goesDown (tie : Tie) (below : Nat) : Bool :=
  match tie with
  | toEven => below % 2 = 0
  | awayFromZero => false

/-- Reads the exponent and fraction fields of a finite double. -/
def Binary.ofBits (bits : UInt64) : Binary :=
  let biased : Nat := (bits.toNat / Nat.pow 2 52) % 2048
  let fraction : Nat := bits.toNat % Nat.pow 2 52
  if biased = 0 then ⟨fraction, -1074, false⟩
  else ⟨fraction + Nat.pow 2 52, (biased : Int) - 1075, fraction = 0 ∧ 1 < biased⟩

namespace Binary

/-- A quarter of the unit in the last place, as a fraction of two naturals. -/
def quarter (b : Binary) : Nat × Nat :=
  if 0 ≤ b.exponent - 2 then (Nat.pow 2 (b.exponent - 2).toNat, 1)
  else (1, Nat.pow 2 (2 - b.exponent).toNat)

/-- The grid `10 ^ k` in quarters of the last place, as a fraction of two naturals. -/
def grid (b : Binary) (k : Int) : Nat × Nat :=
  let (num, den) := b.quarter
  if 0 ≤ k then (Nat.pow 10 k.toNat * den, num) else (den, Nat.pow 10 (-k).toNat * num)

/-- Whether `a` steps of a grid lie among the reals that round to `b`; the ends belong to
it when the mantissa is even. -/
def accepts (b : Binary) (step : Nat × Nat) (a : Nat) : Bool :=
  let point := a * step.1
  let low := (4 * b.mantissa - if b.narrow then 1 else 2) * step.2
  let high := (4 * b.mantissa + 2) * step.2
  if b.mantissa % 2 = 0 then low ≤ point && point ≤ high else low < point && point < high

/-- The point of the grid `10 ^ k` nearest to `b`, if it reads back. -/
def onGrid? (b : Binary) (tie : Tie) (k : Int) : Option Scientific :=
  let step := b.grid k
  let value := 4 * b.mantissa * step.2
  let below := value / step.1
  let lowGap := value - below * step.1
  let highGap := (below + 1) * step.1 - value
  let nearest :=
    if lowGap < highGap ∨ (lowGap = highGap ∧ tie.goesDown below) then [below, below + 1]
    else [below + 1, below]
  (nearest.find? fun a => 0 < a && b.accepts step a).map (⟨·, k⟩)

/-- The grids of every finite double, from the coarsest. -/
def grids : List Int := (List.range 634).map fun (i : Nat) => 309 - (i : Int)

def shortest (b : Binary) (tie : Tie) : Scientific :=
  if b.mantissa = 0 then ⟨0, 0⟩ else (grids.findSome? (b.onGrid? tie)).getD ⟨0, 0⟩

end Binary

/-- Positional notation without an exponent; the fraction is absent when it is zero. -/
def Scientific.positional (d : Scientific) : List Char :=
  let text := Nat.toDigits 10 d.digits
  if 0 ≤ d.exponent then text ++ List.replicate d.exponent.toNat '0'
  else
    let places := (-d.exponent).toNat
    let padded := List.replicate (places + 1 - text.length) '0' ++ text
    padded.take (padded.length - places) ++ '.' :: padded.drop (padded.length - places)

/-- The plain text of a finite double: a sign, the shortest digits, never an exponent. -/
def plain (tie : Tie) (x : Float) : List Char :=
  let text := ((Binary.ofBits x.toBits).shortest tie).positional
  if UInt64.size ≤ 2 * x.toBits.toNat then '-' :: text else text

end GatewayPlane.Decimal
