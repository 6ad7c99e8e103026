/-!
# Lengths of time

A length of time to the nanosecond whose whole seconds fit a 64-bit word.
-/
namespace GatewayPlane

structure Span where
  nanos : Nat
  bounded : nanos < UInt64.size * 1_000_000_000 := by decide
  deriving DecidableEq, Repr

namespace Span

theorem ext {a b : Span} (h : a.nanos = b.nanos) : a = b := by
  cases a
  cases b
  subst h
  rfl

def zero : Span := ⟨0, by decide⟩

instance : Inhabited Span := ⟨zero⟩

def seconds (d : Span) : Nat := d.nanos / 1_000_000_000

/-- The nanoseconds beyond the whole seconds. -/
def subsecond (d : Span) : Nat := d.nanos % 1_000_000_000

def ofNanos? (n : Nat) : Option Span :=
  if h : n < UInt64.size * 1_000_000_000 then some ⟨n, h⟩ else none

def ofMillis (n : UInt64) : Span :=
  ⟨n.toNat * 1_000_000, by have h := n.toNat_lt_size; omega⟩

def ofSeconds (n : UInt64) : Span :=
  ⟨n.toNat * 1_000_000_000, by have h := n.toNat_lt_size; omega⟩

/-- A decimal fraction of `places` places without its trailing zeros; empty when zero. -/
def fraction (value places : Nat) : List Char :=
  let digits := Nat.toDigits 10 value
  let padded := List.replicate (places - digits.length) '0' ++ digits
  match (padded.reverse.dropWhile (· == '0')).reverse with
  | [] => []
  | kept => '.' :: kept

/-- The length in the largest unit of s, ms, µs and ns that it reaches. -/
def inLargestUnit (d : Span) : String :=
  let n := d.nanos
  let written (unit places : Nat) (symbol : String) :=
    String.ofList (Nat.toDigits 10 (n / unit) ++ fraction (n % unit) places) ++ symbol
  if 1_000_000_000 ≤ n then written 1_000_000_000 9 "s"
  else if 1_000_000 ≤ n then written 1_000_000 6 "ms"
  else if 1_000 ≤ n then written 1_000 3 "µs"
  else written 1 0 "ns"

end Span

end GatewayPlane
