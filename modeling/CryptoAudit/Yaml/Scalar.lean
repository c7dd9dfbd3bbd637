import CryptoAudit.Text.Case
import CryptoAudit.Yaml.Tag

/-!
# Values of YAML scalars

A scalar with a type has the value that its text denotes, which may be given in more ways than a
plain scalar needs: underscores are ignored, and numbers may be in sixtieths.

## Main definitions

* `intValue`, `floatValue`, `truthValue`, `timestampValue`, `bytesValue`: the values by type
-/

namespace CryptoAudit.Yaml

/-- The value of a digit, in a base of up to thirty-six. -/
def digitIn? (base : Nat) (c : Char) : Option Nat :=
  let n :=
    if isDigit c then some (digitValue c)
    else if 'a' ≤ c && c ≤ 'z' then some (c.toNat - 87)
    else if 'A' ≤ c && c ≤ 'Z' then some (c.toNat - 55)
    else none
  n.filter (· < base)

/-- The digits after the mark of a base, if the mark is there. -/
def afterBaseMark (base : Nat) (cs : List Char) : List Char :=
  match cs with
  | '0' :: c :: digits =>
    let mark := if base = 2 then 'b' else if base = 8 then 'o' else if base = 16 then 'x' else '0'
    if mark ≠ '0' && c.toLower = mark then digits else cs
  | _ => cs

/-- The integer in a text without underscores, with blanks at the ends, a sign and the mark of
the base allowed. Only bases that are no powers of two limit the number of digits. -/
def readInt (base : Nat) (cs : List Char) : Except Fault Int :=
  let fault := Fault.notInteger base (String.ofList cs)
  let (negative, body) := splitSign (Text.stripChars cs)
  let digits := afterBaseMark base body
  match digits.mapM (digitIn? base) with
  | none => .error fault
  | some [] => .error fault
  | some ds =>
    if base = 10 && digitLimit < ds.length then .error (.tooManyDigits ds.length)
    else
      let n := Int.ofNat (ds.foldl (fun n d => base * n + d) 0)
      .ok (if negative then -n else n)

/-- The pieces of a text between colons. -/
def splitColons (cs : List Char) : List (List Char) :=
  cs.splitOn ':'

/-- The value of an integer. -/
def intValue (s : String) : Except Fault Value := do
  let cs := s.toList.filter (· ≠ '_')
  if cs.isEmpty then throw .emptyNumber
  let (negative, body) := splitSign cs
  let n ← match body with
    | [] => throw .emptyNumber
    | '0' :: 'b' :: digits => readInt 2 digits
    | '0' :: 'x' :: digits => readInt 16 digits
    | ['0'] => pure 0
    | '0' :: _ => readInt 8 body
    | _ =>
      if body.contains ':' then do
        let parts ← (splitColons body).mapM (readInt 10)
        pure (parts.foldl (fun n part => 60 * n + part) 0)
      else readInt 10 body
  return .int (if negative then -n else n)

/-- The floating-point number in a text. -/
def readFloat (cs : List Char) : Except Fault Binary64 :=
  match Binary64.read? cs with
  | some x => .ok x
  | none => .error (.notNumber (String.ofList cs))

/-- The sum of parts, the last of which counts ones, the one before sixties and so on. -/
def sumOfSixtieths (parts : List Binary64) : Binary64 :=
  (parts.reverse.foldl
    (fun (sum, base) part => (sum.add (part.mul (.ofInt base)), 60 * base))
    (Binary64.ofInt 0, (1 : Int))).1

/-- The value of a floating-point number. -/
def floatValue (s : String) : Except Fault Value := do
  let cs := (Text.lower s).toList.filter (· ≠ '_')
  if cs.isEmpty then throw .emptyNumber
  let (negative, body) := splitSign cs
  let x ←
    if body = ".inf".toList then pure (Binary64.infinite false)
    else if body = ".nan".toList then pure Binary64.nan
    else if body.contains ':' then do
      pure (sumOfSixtieths (← (splitColons body).mapM readFloat))
    else readFloat body
  return .float (if negative then x.neg else x)

/-- The value of a word for a truth value. -/
def truthValue (s : String) : Except Fault Value :=
  match Tag.truthWords.lookup (Text.lower s) with
  | some b => .ok (.bool b)
  | none => .error (.notTruthWord (Text.lower s))

/-- The date or the point in time that a text denotes. -/
def timestampValue (s : String) : Except Fault Value :=
  match Timestamp.ofChars? s.toList with
  | some t => t.value
  | none => .error .notTimestamp

/-! ### Bytes -/

/-- The value of a digit of base sixty-four. -/
def sextet? (c : Char) : Option Nat :=
  if 'A' ≤ c && c ≤ 'Z' then some (c.toNat - 65)
  else if 'a' ≤ c && c ≤ 'z' then some (c.toNat - 71)
  else if isDigit c then some (c.toNat + 4)
  else if c = '+' then some 62
  else if c = '/' then some 63
  else none

/-- The bytes in digits of base sixty-four, four digits to three bytes. `held` are the digits of
the group so far and `pads` the equals signs since the last digit; the signs that fill up a group
end the text, and characters that are no digits are passed over. -/
def bytesFrom (held : List Nat) (pads : Nat) : List Char → Option (List UInt8)
  | [] => if held.isEmpty then some [] else none
  | '=' :: cs =>
    if 2 ≤ held.length then
      if 4 ≤ held.length + pads + 1 then some [] else bytesFrom held (pads + 1) cs
    else bytesFrom held pads cs
  | c :: cs =>
    match sextet? c, held with
    | none, _ => bytesFrom held pads cs
    | some d, [] => bytesFrom [d] 0 cs
    | some d, [x] => (bytesFrom [d, x] 0 cs).map (UInt8.ofNat (4 * x + d / 16) :: ·)
    | some d, [y, x] =>
      (bytesFrom [d, y, x] 0 cs).map (UInt8.ofNat (16 * (y % 16) + d / 4) :: ·)
    | some d, z :: _ => (bytesFrom [] 0 cs).map (UInt8.ofNat (64 * (z % 4) + d) :: ·)

/-- The bytes that a text denotes. -/
def bytesValue (s : String) : Except Fault Value :=
  if s.toList.all fun c => c.toNat < 128 then
    match bytesFrom [] 0 s.toList with
    | some bytes => .ok (.bytes bytes)
    | none => .error .malformed
  else .error .malformed

end CryptoAudit.Yaml
