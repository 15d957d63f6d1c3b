/-!
# Blank characters

White space that may surround a number or an envelope on the wire: the characters with the
property `White_Space`.  `trim` removes them from both ends of a text and touches nothing
inside it.
-/

set_option autoImplicit false

namespace SealedCredentials.Text

/-- A character with the property `White_Space`. -/
def isBlank (c : Char) : Bool :=
  let point := c.toNat
  (0x09 ≤ point && point ≤ 0x0D) || point == 0x20 || point == 0x85 || point == 0xA0 ||
    point == 0x1680 || (0x2000 ≤ point && point ≤ 0x200A) || point == 0x2028 ||
    point == 0x2029 || point == 0x202F || point == 0x205F || point == 0x3000

/-- A list of characters without the blank ones at its ends. -/
def trimmed (characters : List Char) : List Char :=
  ((characters.dropWhile isBlank).reverse.dropWhile isBlank).reverse

/-- A text without the blank characters at its ends. -/
def trim (text : String) : String := String.ofList (trimmed text.toList)

end SealedCredentials.Text
