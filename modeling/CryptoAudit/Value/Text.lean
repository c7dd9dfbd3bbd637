import CryptoAudit.Number.Shortest
import CryptoAudit.Text.Quoted
import CryptoAudit.Value.Basic

/-!
# Text of values

A value has a plain text and a quoted text. They differ for text, which is quoted only in the
second, and for dates and paths. Inside a list, a pair, a mapping or a set every value is quoted.
An integer of very many digits is not written at all, and so no value that it stands in is.

## Main definitions

* `Value.quoted`: the quoted text
* `Value.display`: the plain text
* `Value.isWritable`, `Value.display?`: whether a value is written, and its plain text if it is
-/

namespace CryptoAudit

/-- A number in decimal, with zeros in front up to the given width. -/
def padded (width n : Nat) : String :=
  let digits := Nat.toDigits 10 n
  String.ofList (List.replicate (width - digits.length) '0' ++ digits)

/-- An integer in decimal. -/
def decimal (n : Int) : String :=
  let digits := Nat.toDigits 10 n.natAbs
  String.ofList (if n < 0 then '-' :: digits else digits)

/-- The greatest number of decimal digits of an integer that is read or written. -/
def digitLimit : Nat := 4300

/-- What is said of an integer with too many digits to be written. -/
def tooManyDigitsMessage : String :=
  "Exceeds the limit (" ++ decimal digitLimit ++ " digits) for integer string conversion; " ++
    "use sys.set_int_max_str_digits() to increase the limit"

/-- The date as year, month and day. -/
def Date.text (d : Date) : String :=
  padded 4 d.year ++ "-" ++ padded 2 d.month ++ "-" ++ padded 2 d.day

namespace Moment

/-- A distance from universal time in hours and minutes. -/
def offsetText (offset : Int) : String :=
  let n := offset.natAbs
  (if offset < 0 then "-" else "+") ++ padded 2 (n / 3600) ++ ":" ++ padded 2 (n / 60 % 60)

/-- The time of day in hours, minutes and seconds. -/
def clock (t : Moment) : String :=
  padded 2 t.hour ++ ":" ++ padded 2 t.minute ++ ":" ++ padded 2 t.second

/-- The date and the time, with microseconds and the distance from universal time if any. -/
def text (t : Moment) : String :=
  t.date.text ++ " " ++ t.clock ++ (if t.micro = 0 then "" else "." ++ padded 6 t.micro) ++
    (t.offset.map offsetText).getD ""

/-- A span of seconds as the expression that builds it, in whole days and the seconds over. -/
def spanQuoted (span : Int) : String :=
  let part (unit : String) (n : Int) := if n = 0 then [] else [unit ++ "=" ++ decimal n]
  let parts := part "days" (Int.fdiv span 86400) ++ part "seconds" (Int.fmod span 86400)
  "datetime.timedelta(" ++ String.intercalate ", " (if parts.isEmpty then ["0"] else parts) ++ ")"

/-- A time zone as the expression that builds it. -/
def zoneQuoted (offset : Int) : String :=
  if offset = 0 then "datetime.timezone.utc"
  else "datetime.timezone(" ++ spanQuoted offset ++ ")"

/-- The point in time as the expression that builds it; zero seconds and microseconds at the end
are left out. -/
def quoted (t : Moment) : String :=
  let fine :=
    if t.micro ≠ 0 then [t.second, t.micro] else if t.second ≠ 0 then [t.second] else []
  let parts := ([t.date.year, t.date.month, t.date.day, t.hour, t.minute] ++ fine).map
    fun n => decimal (Int.ofNat n)
  let zone := (t.offset.map fun o => ["tzinfo=" ++ zoneQuoted o]).getD []
  "datetime.datetime(" ++ String.intercalate ", " (parts ++ zone) ++ ")"

end Moment

/-- The date as the expression that builds it. -/
def Date.quoted (d : Date) : String :=
  "datetime.date(" ++ String.intercalate ", " ([d.year, d.month, d.day].map
    fun n => decimal (Int.ofNat n)) ++ ")"

namespace Value

/-- The spelling of a truth value. -/
def boolText (b : Bool) : String :=
  if b then "True" else "False"

mutual

/-- The quoted text of a value. -/
def quoted : Value → String
  | .null => "None"
  | .bool b => boolText b
  | .int n => decimal n
  | .float x => x.toText
  | .text s => Text.quote s
  | .bytes bs => Text.quoteBytes bs
  | .date d => d.quoted
  | .moment t => t.quoted
  | .path p => "PosixPath(" ++ Text.quote p.text ++ ")"
  | .list items => "[" ++ String.intercalate ", " (quotedItems items) ++ "]"
  | .pair a b => "(" ++ quoted a ++ ", " ++ quoted b ++ ")"
  | .map entries => "\x7b" ++ String.intercalate ", " (quotedEntries entries) ++ "\x7d"
  | .set [] => "set()"
  | .set (x :: xs) =>
    "\x7b" ++ String.intercalate ", " (quoted x :: quotedItems xs) ++ "\x7d"

/-- The quoted texts of the items of a list. -/
def quotedItems : List Value → List String
  | [] => []
  | x :: xs => quoted x :: quotedItems xs

/-- The quoted texts of the entries of a mapping. -/
def quotedEntries : List (Value × Value) → List String
  | [] => []
  | (k, v) :: entries => (quoted k ++ ": " ++ quoted v) :: quotedEntries entries

end

/-- The plain text of a value. -/
def display : Value → String
  | .text s => s
  | .date d => d.text
  | .moment t => t.text
  | .path p => p.text
  | v => v.quoted

mutual

/-- Whether a value is written: no integer in it has too many digits. -/
def isWritable : Value → Bool
  | .int n => (Nat.toDigits 10 n.natAbs).length ≤ digitLimit
  | .list items => allWritable items
  | .pair a b => isWritable a && isWritable b
  | .map entries => entriesWritable entries
  | .set items => allWritable items
  | _ => true

/-- Whether all items of a list are written. -/
def allWritable : List Value → Bool
  | [] => true
  | x :: xs => isWritable x && allWritable xs

/-- Whether all keys and values of a mapping are written. -/
def entriesWritable : List (Value × Value) → Bool
  | [] => true
  | (k, v) :: entries => isWritable k && isWritable v && entriesWritable entries

end

/-- The plain text of a value that is written. -/
def display? (v : Value) : Option String :=
  if v.isWritable then some v.display else none

/-- The type of a value as it is named in messages. -/
def typeText (v : Value) : String :=
  "<class '" ++ v.qualifiedTypeName ++ "'>"

@[simp] theorem display?_text (s : String) : (Value.text s).display? = some s := rfl

theorem display?_eq_some_iff {v : Value} {s : String} :
    v.display? = some s ↔ v.isWritable = true ∧ v.display = s := by
  simp [display?]

end Value

end CryptoAudit
