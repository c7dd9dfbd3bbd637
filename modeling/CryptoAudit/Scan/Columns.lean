import CryptoAudit.Log.Logged
import CryptoAudit.Settings.Columns
import CryptoAudit.Table.Basic

/-!
# Columns of a scan

A table has to have the column of names that the settings give. Location columns that it does not
have are left out, with a warning for each.

## Main definitions

* `ScanError`: why a table cannot be scanned
* `Table.column`, `Table.cell`: the cells of a column that has to be there
* `ScanColumns`: the columns of a table that a scan uses
* `ScanColumns.resolve`: the columns that the settings give and the table has

## Main results

* `ScanColumns.resolve_eq_error_iff`: only a missing column of names is an error
-/

namespace CryptoAudit

/-- Why a table cannot be scanned. -/
inductive ScanError where
  | noNameColumn (name : String) (headers : List Value)
  | noColumn (header : String)
  | emptyCell
  | manyInCell

/-- The wording of an error. -/
def ScanError.message : ScanError → String
  | .noNameColumn name headers =>
    "Configured name_col='" ++ name ++ "' not found in candidate table columns: " ++
      (Value.list headers).quoted
  | .noColumn header => header
  | .emptyCell =>
    "The truth value of an empty array is ambiguous. Use \x60array.size > 0\x60 to check that " ++
      "an array is not empty."
  | .manyInCell =>
    "The truth value of an array with more than one element is ambiguous. Use a.any() or a.all()"

/-- The name of the logger that speaks of scans. -/
def scanLogger : String := "application.scan"

/-- The cells under a header. A column that the table does not have is an error. -/
def Table.column (t : Table) (header : String) : Except ScanError (List Value) :=
  match t.column? header with
  | some cells => .ok cells
  | none => .error (.noColumn header)

/-- The cell of a row under a header. A cell that the row does not have is an error. -/
def Table.cell (t : Table) (header : String) (row : List Value) : Except ScanError Value :=
  match t.cell? header row with
  | some v => .ok v
  | none => .error (.noColumn header)

/-- The columns of a table that a scan uses. -/
structure ScanColumns where
  name : String
  locations : List String
deriving DecidableEq, Repr, Inhabited

namespace ScanColumns

/-- The warning about a location column that a table does not have. -/
def warning (column : String) : Log.Record :=
  ⟨.warning, scanLogger,
    "Configured location column '" ++ column ++ "' not found in candidate table; ignoring it."⟩

/-- The columns that the settings give and the table has. -/
def resolve (columns : Columns) (t : Table) : Log.Logged ScanError ScanColumns :=
  if t.hasColumn columns.name then
    ⟨(columns.locations.filter fun c => !t.hasColumn c).map warning,
      .ok ⟨columns.name, columns.locations.filter t.hasColumn⟩⟩
  else .fail (.noNameColumn columns.name t.headers)

theorem resolve_eq_error_iff {columns : Columns} {t : Table} {e : ScanError} :
    (resolve columns t).outcome = .error e ↔
      t.hasColumn columns.name = false ∧ e = .noNameColumn columns.name t.headers := by
  unfold resolve
  split
  · simp_all
  · rename_i h
    simp only [Log.Logged.fail, Except.error.injEq, Bool.not_eq_true] at h ⊢
    exact ⟨fun he => ⟨h, he.symm⟩, fun he => he.2.symm⟩

end ScanColumns

end CryptoAudit
