/-!
# Blanks

The characters with the Unicode property `White_Space`, and the removal of such
characters from both ends of a text.
-/

set_option autoImplicit false

namespace GraphSelect

namespace Text

/-- The character has the property `White_Space`. -/
def isBlank (c : Char) : Bool :=
  let code := c.val
  (0x09 ≤ code && code ≤ 0x0D) || code == 0x20 || code == 0x85 || code == 0xA0 ||
    code == 0x1680 || (0x2000 ≤ code && code ≤ 0x200A) || code == 0x2028 || code == 0x2029 ||
    code == 0x202F || code == 0x205F || code == 0x3000

/-- The characters without the blanks at the front. -/
def trimFront (chars : List Char) : List Char := chars.dropWhile isBlank

/-- The characters without the blanks at the end. -/
def trimBack (chars : List Char) : List Char := (trimFront chars.reverse).reverse

/-- The characters without the blanks at both ends. -/
def trim (chars : List Char) : List Char := trimBack (trimFront chars)

end Text

end GraphSelect
