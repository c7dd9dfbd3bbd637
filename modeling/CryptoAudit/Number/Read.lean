import CryptoAudit.Number.Binary64
import CryptoAudit.Text.Blank

/-!
# Reading decimal numbers

A floating-point number is read from a sign, digits with an optional point and an optional
exponent, or from the words for infinity and not-a-number. Blanks at the ends are ignored, and a
single underscore may stand between two digits.

## Main definitions

* `Binary64.read?`: the number that a text denotes
-/

namespace CryptoAudit

/-- The value of a decimal digit. -/
def digitValue (c : Char) : Nat :=
  c.toNat - 48

/-- Whether a character is an ASCII digit. -/
def isDigit (c : Char) : Bool :=
  '0' ≤ c && c ≤ '9'

/-- The number that a run of digits denotes. -/
def natOfDigits (cs : List Char) : Nat :=
  cs.foldl (fun n c => 10 * n + digitValue c) 0

/-- The digits without underscores, if every underscore stands between two digits. -/
def ungrouped? : List Char → Option (List Char)
  | [] => some []
  | c :: '_' :: d :: cs =>
    if isDigit c && isDigit d then (ungrouped? (d :: cs)).map (c :: ·) else none
  | c :: cs => if c = '_' then none else (ungrouped? cs).map (c :: ·)

/-- A sign in front of a text: whether it is a minus, and the rest. -/
def splitSign : List Char → Bool × List Char
  | '-' :: cs => (true, cs)
  | '+' :: cs => (false, cs)
  | cs => (false, cs)

namespace Binary64

/-- An exponent: nothing, or an `e` with a signed run of digits. -/
def readExponent? : List Char → Option Int
  | [] => some 0
  | c :: cs =>
    let (negative, digits) := splitSign cs
    if (c = 'e' || c = 'E') && !digits.isEmpty && digits.all isDigit then
      let n := Int.ofNat (natOfDigits digits)
      some (if negative then -n else n)
    else none

/-- An unsigned decimal. -/
def readUnsigned? (negative : Bool) (cs : List Char) : Option Binary64 :=
  let whole := cs.takeWhile isDigit
  let rest := cs.dropWhile isDigit
  let (fraction, rest) := match rest with
    | '.' :: rest => (rest.takeWhile isDigit, rest.dropWhile isDigit)
    | rest => ([], rest)
  if whole.isEmpty && fraction.isEmpty then none
  else (readExponent? rest).map fun e =>
    ofDecimal negative (natOfDigits (whole ++ fraction)) (e - Int.ofNat fraction.length)

/-- The number that a text denotes. -/
def read? (cs : List Char) : Option Binary64 :=
  match ungrouped? (Text.stripChars cs) with
  | none => none
  | some cs =>
    let (negative, body) := splitSign cs
    let word := String.ofList (body.map Char.toLower)
    if word = "inf" || word = "infinity" then some (.infinite negative)
    else if word = "nan" then some .nan
    else readUnsigned? negative body

end Binary64

end CryptoAudit
