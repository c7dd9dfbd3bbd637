import CryptoAudit.Value.Text

/-!
# Faults of YAML texts

A text that is not YAML is malformed. A text that is may still hold a scalar without a value, such
as a number that cannot be read or a day that the calendar does not have.

## Main definitions

* `Fault`: why a text has no value
* `Fault.message`: the wording
-/

namespace CryptoAudit.Yaml

/-- Why a text has no value. -/
inductive Fault where
  | malformed
  | characterOutOfRange
  | characterTooLarge
  | notInteger (base : Nat) (text : String)
  | tooManyDigits (count : Nat)
  | notNumber (text : String)
  | emptyNumber
  | notTruthWord (word : String)
  | notTimestamp
  | yearOutOfRange (year : Nat)
  | monthOutOfRange
  | dayOutOfRange
  | hourOutOfRange
  | minuteOutOfRange
  | secondOutOfRange
  | offsetOutOfRange (seconds : Int)
deriving DecidableEq, Repr

/-- The wording of a fault. -/
def Fault.message : Fault → String
  | .malformed => "malformed text"
  | .characterOutOfRange => "chr() arg not in range(0x110000)"
  | .characterTooLarge => "Python int too large to convert to C int"
  | .notInteger base text =>
    "invalid literal for int() with base " ++ decimal base ++ ": " ++ Text.quote text
  | .tooManyDigits count =>
    "Exceeds the limit (" ++ decimal digitLimit ++
      " digits) for integer string conversion: value has " ++ decimal count ++
      " digits; use sys.set_int_max_str_digits() to increase the limit"
  | .notNumber text => "could not convert string to float: " ++ Text.quote text
  | .emptyNumber => "string index out of range"
  | .notTruthWord word => word
  | .notTimestamp => "'NoneType' object has no attribute 'groupdict'"
  | .yearOutOfRange year => "year " ++ decimal year ++ " is out of range"
  | .monthOutOfRange => "month must be in 1..12"
  | .dayOutOfRange => "day is out of range for month"
  | .hourOutOfRange => "hour must be in 0..23"
  | .minuteOutOfRange => "minute must be in 0..59"
  | .secondOutOfRange => "second must be in 0..59"
  | .offsetOutOfRange seconds =>
    "offset must be a timedelta strictly between -timedelta(hours=24) and timedelta(hours=24), not "
      ++ Moment.spanQuoted seconds ++ "."

end CryptoAudit.Yaml
