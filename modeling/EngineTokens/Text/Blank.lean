/-!
# Blank characters

The characters of the Unicode property White_Space. Free text is split at them, and they are what is
cut from both ends of a number typed by hand.
-/

set_option autoImplicit false

namespace EngineTokens.Text

/-- Holds of exactly the twenty-five characters of the property White_Space. -/
def isBlank (c : Char) : Bool :=
  let n := c.toNat
  (0x09 ≤ n && n ≤ 0x0D) || n == 0x20 || n == 0x85 || n == 0xA0 || n == 0x1680 ||
    (0x2000 ≤ n && n ≤ 0x200A) || n == 0x2028 || n == 0x2029 || n == 0x202F || n == 0x205F ||
    n == 0x3000

/-- Drops the blanks before the first and after the last character that is not blank. -/
def trim (text : List Char) : List Char :=
  ((text.dropWhile isBlank).reverse.dropWhile isBlank).reverse

end EngineTokens.Text
