import CryptoAudit.Text.Case
import CryptoAudit.Value.Text

/-!
# Validation of values

Settings and entries are read from values field by field. Reading is lax: a truth value may be
given as a number or as a word. Each field that cannot be read yields one complaint, with the
place of the offending value.

## Main definitions

* `FieldError`: a complaint with its place
* `readText`, `readBool`, `readPath`: reading one value
-/

namespace CryptoAudit

/-- One step on the way to a value. -/
inductive Place where
  | field (name : String)
  | item (index : Nat)
deriving DecidableEq, Repr, Inhabited

/-- What is wrong with a value. -/
inductive Complaint where
  | missing
  | notText
  | undecodableText
  | emptyText
  | notCanonical (name : String)
  | notTruthValue
  | unreadableTruthValue
  | notCategory
  | notPath
  | notList
  | notColumns
  | notRegistry
  | frozen
  | noNameColumn
deriving DecidableEq, Repr, Inhabited

/-- The short name of a complaint. -/
def Complaint.code : Complaint → String
  | .missing => "missing"
  | .notText => "string_type"
  | .undecodableText => "string_unicode"
  | .emptyText => "string_too_short"
  | .notCanonical _ => "value_error"
  | .notTruthValue => "bool_type"
  | .unreadableTruthValue => "bool_parsing"
  | .notCategory => "enum"
  | .notPath => "path_type"
  | .notList => "list_type"
  | .notColumns => "model_type"
  | .notRegistry => "is_instance_of"
  | .frozen => "frozen_instance"
  | .noNameColumn => "value_error"

/-- The wording of a complaint. -/
def Complaint.message : Complaint → String
  | .missing => "Field required"
  | .notText => "Input should be a valid string"
  | .undecodableText =>
    "Input should be a valid string, unable to parse raw data as a unicode string"
  | .emptyText => "String should have at least 1 character"
  | .notCanonical name =>
    "Value error, Canonical name must be upper-case alphanumeric, got " ++ Text.quote name
  | .notTruthValue => "Input should be a valid boolean"
  | .unreadableTruthValue => "Input should be a valid boolean, unable to interpret input"
  | .notCategory => "Input should be 'Hashing', 'Encryption' or 'PasswordHashing'"
  | .notPath => "Input is not a valid path for <class 'pathlib.Path'>"
  | .notList => "Input should be a valid list"
  | .notColumns => "Input should be a valid dictionary or instance of ScanColumnsConfig"
  | .notRegistry => "Input should be an instance of TaxonomyRegistry"
  | .frozen => "Instance is frozen"
  | .noNameColumn => "Value error, name_col is required in scan.yaml"

/-- A complaint about the value at a place. -/
structure FieldError where
  place : List Place
  complaint : Complaint
deriving DecidableEq, Repr, Inhabited

/-- One step on the way to a value, as it is shown. -/
def Place.text : Place → String
  | .field name => name
  | .item i => decimal i

/-- A complaint with its place, in one line. -/
def FieldError.line (e : FieldError) : String :=
  String.intercalate "." (e.place.map Place.text) ++ ": " ++ e.complaint.message

/-- Complaints with their places, each in a line. -/
def linesOfErrors (errors : List FieldError) : String :=
  String.intercalate "\n" (errors.map FieldError.line)

/-- The text of bytes that are valid text. -/
def textOfBytes? (bs : List UInt8) : Option String :=
  String.fromUTF8? ⟨bs.toArray⟩

/-- A text, or bytes that are valid text. -/
def readText : Value → Except Complaint String
  | .text s => .ok s
  | .bytes bs => match textOfBytes? bs with
    | some s => .ok s
    | none => .error .undecodableText
  | _ => .error .notText

/-- The truth value that a word stands for. -/
def boolOfWord? (s : String) : Option Bool :=
  let isOneOf (words : List String) := words.any (Text.equalsIgnoringAsciiCase s)
  if isOneOf ["0", "off", "f", "false", "n", "no"] then some false
  else if isOneOf ["1", "on", "t", "true", "y", "yes"] then some true
  else none

/-- The truth value that a number stands for. -/
def boolOfInt? (n : Int) : Option Bool :=
  if n = 0 then some false else if n = 1 then some true else none

/-- The least number that is too great for 64 bits with a sign. -/
def int64Bound : Int := 0x8000000000000000

/-- A truth value, or a number or word that stands for one. Numbers outside 64 bits and numbers
that are not whole are of the wrong type altogether. -/
def readBool : Value → Except Complaint Bool
  | .bool b => .ok b
  | .text s => orUnreadable (boolOfWord? s)
  | .bytes bs => orUnreadable ((textOfBytes? bs).bind boolOfWord?)
  | .int n =>
    if -int64Bound ≤ n ∧ n < int64Bound then orUnreadable (boolOfInt? n)
    else .error .notTruthValue
  | .float x => match x.toInt? with
    | some n =>
      if -int64Bound < n ∧ n < int64Bound then orUnreadable (boolOfInt? n)
      else .error .notTruthValue
    | none => .error .notTruthValue
  | _ => .error .notTruthValue
where
  /-- The truth value, or the complaint that there is none. -/
  orUnreadable : Option Bool → Except Complaint Bool
    | some b => .ok b
    | none => .error .unreadableTruthValue

/-- A path, or the text of one. -/
def readPath : Value → Except Complaint Path
  | .path p => .ok p
  | .text s => .ok (Path.ofText s)
  | _ => .error .notPath

/-- The errors of one field. -/
def errorsAt {α : Type} (place : List Place) : Except Complaint α → List FieldError
  | .ok _ => []
  | .error c => [⟨place, c⟩]

/-- A field that has to be there. -/
def required {α : Type} (read : Value → Except Complaint α) : Option Value → Except Complaint α
  | some v => read v
  | none => .error .missing

end CryptoAudit
