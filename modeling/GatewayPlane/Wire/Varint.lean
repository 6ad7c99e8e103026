/-!
# Variable-length integers

A number in groups of seven bits, the lowest group first; every byte but the last has its
high bit set. A reader takes at most ten bytes and no number beyond 64 bits, and it does
not insist on the shortest form.
-/
namespace GatewayPlane.Wire

abbrev Bytes := List UInt8

def writeVarint (n : Nat) : Bytes :=
  if n < 128 then [n.toUInt8] else (n % 128 + 128).toUInt8 :: writeVarint (n / 128)

/-- The number in at most `count` bytes, and the rest. -/
def readGroups : Nat → Bytes → Option (Nat × Bytes)
  | 0, _ => none
  | _ + 1, [] => none
  | count + 1, b :: rest =>
    if b.toNat < 128 then some (b.toNat, rest)
    else (readGroups count rest).map fun (n, rest) => (b.toNat - 128 + 128 * n, rest)

def readVarint (bytes : Bytes) : Option (Nat × Bytes) := do
  let (n, rest) ← readGroups 10 bytes
  if n < UInt64.size then some (n, rest) else none

end GatewayPlane.Wire
