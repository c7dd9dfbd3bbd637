/-!
# Blank characters

The white space of Unicode together with the four ASCII information separators. A zero-width
space and a byte-order mark are not blank.

## Main definitions

* `isBlank`: the class
* `strip`: a text without the blanks at its two ends
-/

namespace CryptoAudit.Text

/-- Whether a character is white space. -/
def isBlank (c : Char) : Bool :=
  let n := c.toNat
  (0x9 ≤ n && n ≤ 0xD) || (0x1C ≤ n && n ≤ 0x20) || n == 0x85 || n == 0xA0 || n == 0x1680 ||
    (0x2000 ≤ n && n ≤ 0x200A) || n == 0x2028 || n == 0x2029 || n == 0x202F || n == 0x205F ||
    n == 0x3000

/-- The characters without the blanks at the end. -/
def stripEnd (cs : List Char) : List Char :=
  (cs.reverse.dropWhile isBlank).reverse

/-- The characters without the blanks at both ends. -/
def stripChars (cs : List Char) : List Char :=
  stripEnd (cs.dropWhile isBlank)

/-- The text without the blanks at both ends. -/
def strip (s : String) : String :=
  String.ofList (stripChars s.toList)

/-- Whether every character of the text is blank. -/
def isBlankText (s : String) : Bool :=
  s.toList.all isBlank

end CryptoAudit.Text
