/-!
# Blank characters and trimming

The white space of the Unicode property White_Space, and the text that is left
when it is removed from both ends.
-/
namespace GatewayPlane.Text

/-- The twenty-five characters of the property White_Space. -/
def isBlank (c : Char) : Bool :=
  let n := c.toNat
  (0x9 ≤ n && n ≤ 0xd) || n == 0x20 || n == 0x85 || n == 0xa0 || n == 0x1680
    || (0x2000 ≤ n && n ≤ 0x200a) || n == 0x2028 || n == 0x2029 || n == 0x202f
    || n == 0x205f || n == 0x3000

/-- Removes from both ends the characters that `drop` names. -/
def strip (drop : Char → Bool) (s : List Char) : List Char :=
  ((s.dropWhile drop).reverse.dropWhile drop).reverse

def trim (s : String) : String := String.ofList (strip isBlank s.toList)

/-- Text that holds nothing but white space. -/
def isBlankText (s : String) : Bool := s.toList.all isBlank

end GatewayPlane.Text
