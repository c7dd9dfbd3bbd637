import CryptoAudit.Number.Read
import CryptoAudit.Value.Basic
import CryptoAudit.Yaml.Token

/-!
# Dates and times of YAML

A date is a year of four digits with a month and a day of one or two. A time may follow, with a
fraction of a second and a distance from universal time.

## Main definitions

* `Timestamp`: the numbers of a date or a time as they are spelled
* `Timestamp.ofChars?`: reading the spelling
* `Timestamp.value`: the date or the point in time
-/

namespace CryptoAudit.Yaml

/-- A time of day as it is spelled. -/
structure TimeOfDay where
  hour : Nat
  minute : Nat
  second : Nat
  micro : Nat
  /-- The distance from universal time in seconds. -/
  offset : Option Int

/-- A date as it is spelled, with or without a time of day. -/
structure Timestamp where
  year : Nat
  month : Nat
  day : Nat
  /-- Whether month and day both have two digits. -/
  isFull : Bool
  time : Option TimeOfDay

namespace Timestamp

/-- A number of at least `least` and at most `most` digits, and the rest. -/
def number? (least most : Nat) (cs : List Char) : Option (Nat × List Char) :=
  let digits := (cs.take most).takeWhile isDigit
  if least ≤ digits.length then some (natOfDigits digits, cs.drop digits.length) else none

/-- The rest after a given character. -/
def after? (x : Char) : List Char → Option (List Char)
  | c :: cs => if c = x then some cs else none
  | [] => none

/-- Whether a character is a space or a tab. -/
def isGap (c : Char) : Bool :=
  c == ' ' || c == '\t'

/-- The microseconds that the digits of a fraction stand for; further digits are dropped. -/
def microseconds (digits : List Char) : Nat :=
  natOfDigits ((digits ++ List.replicate 6 '0').take 6)

/-- The distance from universal time at the end of a spelling. -/
def offset? (cs : List Char) : Option (Option Int) :=
  match cs.dropWhile isGap with
  | [] => if cs.isEmpty then some none else none
  | ['Z'] => some (some 0)
  | sign :: cs => do
    if sign ≠ '+' ∧ sign ≠ '-' then none
    let (hours, cs) ← number? 1 2 cs
    let minutes ← match cs with
      | [] => some 0
      | cs => do
        let (minutes, cs) ← number? 2 2 (← after? ':' cs)
        if cs.isEmpty then some minutes else none
    let seconds : Int := Int.ofNat (3600 * hours + 60 * minutes)
    return some (if sign = '-' then -seconds else seconds)

/-- The time of day in the rest of a spelling. -/
def time? (cs : List Char) : Option TimeOfDay := do
  let (hour, cs) ← number? 1 2 cs
  let (minute, cs) ← number? 2 2 (← after? ':' cs)
  let (second, cs) ← number? 2 2 (← after? ':' cs)
  let (fraction, cs) := match cs with
    | '.' :: cs => (cs.takeWhile isDigit, cs.dropWhile isDigit)
    | cs => ([], cs)
  return ⟨hour, minute, second, microseconds fraction, ← offset? cs⟩

/-- The timestamp that a text spells. -/
def ofChars? (cs : List Char) : Option Timestamp := do
  let (year, rest) ← number? 4 4 cs
  let monthAt ← after? '-' rest
  let (month, rest) ← number? 1 2 monthAt
  let dayAt ← after? '-' rest
  let (day, rest) ← number? 1 2 dayAt
  let isFull := monthAt.length = dayAt.length + 3 && dayAt.length = rest.length + 2
  match rest with
  | [] => return ⟨year, month, day, isFull, none⟩
  | c :: cs =>
    if c = 'T' || c = 't' then return ⟨year, month, day, isFull, some (← time? cs)⟩
    else if isGap c then
      return ⟨year, month, day, isFull, some (← time? (cs.dropWhile isGap))⟩
    else none

/-- Whether a plain scalar is spelled like a timestamp: a date without a time has two digits for
month and day. -/
def isSpelling (cs : List Char) : Bool :=
  (ofChars? cs).any fun t => t.isFull || t.time.isSome

/-- Whether a year has a leap day. -/
def isLeap (year : Nat) : Bool :=
  year % 4 == 0 && (year % 100 != 0 || year % 400 == 0)

/-- The number of days of a month. -/
def daysIn (year month : Nat) : Nat :=
  if month = 2 then (if isLeap year then 29 else 28)
  else if [4, 6, 9, 11].contains month then 30
  else 31

/-- The date, if the calendar has it. -/
def dateValue (t : Timestamp) : Except Fault Date :=
  if t.year = 0 then .error (.yearOutOfRange t.year)
  else if t.month = 0 || 12 < t.month then .error .monthOutOfRange
  else if t.day = 0 || daysIn t.year t.month < t.day then .error .dayOutOfRange
  else .ok ⟨t.year, t.month, t.day⟩

/-- The time of day on a date, if the clock has it. -/
def momentOn (d : Date) (t : TimeOfDay) : Except Fault Moment :=
  if 23 < t.hour then .error .hourOutOfRange
  else if 59 < t.minute then .error .minuteOutOfRange
  else if 59 < t.second then .error .secondOutOfRange
  else .ok ⟨d, t.hour, t.minute, t.second, t.micro, t.offset⟩

/-- The date or the point in time. The distance from universal time is less than a day. -/
def value (t : Timestamp) : Except Fault Value :=
  match t.time with
  | none => .date <$> t.dateValue
  | some time => do
    if let some offset := time.offset then
      if 86400 ≤ offset.natAbs then throw (.offsetOutOfRange offset)
    return .moment (← momentOn (← t.dateValue) time)

end Timestamp

end CryptoAudit.Yaml
