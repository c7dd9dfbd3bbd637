import CryptoAudit.Text.Printable

/-!
# Quoted text

Text is quoted by single quotes, or by double quotes if it holds a single quote and no double
one. A backslash, the enclosing quote and every unprintable character are escaped, so a quoted
text is a single line and shows every character it holds.

## Main definitions

* `quote`: the quoted form of a text
* `quoteByte`, `quoteBytes`: the same for a sequence of bytes
-/

namespace CryptoAudit.Text

/-- The lower-case hexadecimal digit of a number below sixteen. -/
def hexDigit (n : Nat) : Char :=
  if n < 10 then Char.ofNat (48 + n) else Char.ofNat (87 + n)

/-- The last `width` hexadecimal digits of a number. -/
def hexDigits : Nat → Nat → List Char
  | 0, _ => []
  | width + 1, n => hexDigits width (n / 16) ++ [hexDigit (n % 16)]

/-- The escape of a character by its code point, in the shortest of the three widths. -/
def escapeCodePoint (n : Nat) : List Char :=
  if n < 0x100 then '\\' :: 'x' :: hexDigits 2 n
  else if n < 0x10000 then '\\' :: 'u' :: hexDigits 4 n
  else '\\' :: 'U' :: hexDigits 8 n

/-- A character as it stands between the quotes `q`. -/
def quoteChar (q c : Char) : List Char :=
  if c = '\\' || c = q then ['\\', c]
  else if c = '\n' then ['\\', 'n']
  else if c = '\r' then ['\\', 'r']
  else if c = '\t' then ['\\', 't']
  else if isPrintable c then [c]
  else escapeCodePoint c.toNat

/-- The quote that encloses a text. -/
def enclosing (cs : List Char) : Char :=
  if cs.contains '\'' && !cs.contains '"' then '"' else '\''

/-- The quoted form of a list of characters. -/
def quoteChars (cs : List Char) : List Char :=
  let q := enclosing cs
  q :: (cs.flatMap (quoteChar q) ++ [q])

/-- The quoted form of a text. -/
def quote (s : String) : String :=
  String.ofList (quoteChars s.toList)

/-- A byte as it stands between the quotes `q`. -/
def quoteByte (q : Char) (b : UInt8) : List Char :=
  let c := Char.ofNat b.toNat
  if c = '\\' || c = q then ['\\', c]
  else if c = '\n' then ['\\', 'n']
  else if c = '\r' then ['\\', 'r']
  else if c = '\t' then ['\\', 't']
  else if 32 ≤ b && b ≤ 126 then [c]
  else '\\' :: 'x' :: hexDigits 2 b.toNat

/-- The quoted form of a sequence of bytes, marked by a leading `b`. -/
def quoteBytes (bs : List UInt8) : String :=
  let q := enclosing (bs.map fun b => Char.ofNat b.toNat)
  String.ofList ('b' :: q :: (bs.flatMap (quoteByte q) ++ [q]))

example : quote "it's" = "\"it's\"" := by decide +kernel
example : quote "a\u200b\x00\n" = "'a\\u200b\\x00\\n'" := by decide +kernel

end CryptoAudit.Text
