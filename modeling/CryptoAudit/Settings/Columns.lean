import CryptoAudit.Text.Blank
import CryptoAudit.Validation
import CryptoAudit.Value.Fields

/-!
# Columns of a candidate table

Settings name the column that holds the candidate names, and up to three columns that say where a
candidate was found. A blank location column is the same as none.

## Main definitions

* `Columns`: the four columns
* `Columns.make`, `Columns.read`: reading the columns from values
* `Columns.locations`: the location columns that are given
-/

namespace CryptoAudit

/-- The columns of a candidate table that a scan uses. -/
structure Columns where
  name : String
  file : Option String
  line : Option String
  context : Option String
deriving DecidableEq, Repr, Inhabited

namespace Columns

/-- A column that need not be given. -/
def readOptional : Option Value → Except Complaint (Option String)
  | none => .ok none
  | some .null => .ok none
  | some v => (readText v).map fun s => if Text.isBlankText s then none else some s

/-- The columns made of four values, or the errors of all of them in order. -/
def make (name file line context : Option Value) : Except (List FieldError) Columns :=
  let n := required readText name
  let f := readOptional file
  let l := readOptional line
  let c := readOptional context
  match n, f, l, c with
  | .ok n, .ok f, .ok l, .ok c => .ok ⟨n, f, l, c⟩
  | n, f, l, c =>
    .error (errorsAt [.field "name_col"] n ++ errorsAt [.field "file_col"] f ++
      errorsAt [.field "line_col"] l ++ errorsAt [.field "context_col"] c)

/-- The columns that a list of fields describes; other fields are ignored. -/
def read (fields : List (Value × Value)) : Except (List FieldError) Columns :=
  let field (name : String) := field? (Value.text name) fields
  make (field "name_col") (field "file_col") (field "line_col") (field "context_col")

/-- The location columns that are given. -/
def locations (c : Columns) : List String :=
  [c.file, c.line, c.context].filterMap id

/-- The columns as a value. -/
def toValue (c : Columns) : Value :=
  let column (s : Option String) : Value := (s.map .text).getD .null
  .map [(.text "name_col", .text c.name), (.text "file_col", column c.file),
    (.text "line_col", column c.line), (.text "context_col", column c.context)]

theorem readOptional_notBlank {v : Option Value} {s : String}
    (h : readOptional v = .ok (some s)) : Text.isBlankText s = false := by
  unfold readOptional at h
  split at h
  · simp at h
  · simp at h
  · rename_i w _
    cases hw : readText w with
    | error e => simp [hw, Except.map] at h
    | ok t =>
      by_cases hb : Text.isBlankText t = true
      · simp [hw, Except.map, hb] at h
      · simp only [hw, Except.map, hb, Bool.false_eq_true, if_false, Except.ok.injEq,
          Option.some.injEq] at h
        simpa [h] using hb

end Columns

end CryptoAudit
