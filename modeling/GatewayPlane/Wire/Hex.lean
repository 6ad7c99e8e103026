import GatewayPlane.Text.Digit
import GatewayPlane.Wire.Varint

/-!
# Bytes as text

Two digits of base sixteen for each byte, small letters when written.
-/
namespace GatewayPlane.Wire

def hexDigit (n : Nat) : Char := Nat.digitChar (n % 16)

def hexOf (bytes : Bytes) : String :=
  String.ofList (bytes.flatMap fun b => [hexDigit (b.toNat / 16), hexDigit b.toNat])

def ofHexDigits? : List Char → Option Bytes
  | [] => some []
  | a :: b :: rest => do
    let high ← Text.digitValue? a
    let low ← Text.digitValue? b
    return (16 * high + low).toUInt8 :: (← ofHexDigits? rest)
  | [_] => none

def ofHex? (text : String) : Option Bytes := ofHexDigits? text.toList

end GatewayPlane.Wire
