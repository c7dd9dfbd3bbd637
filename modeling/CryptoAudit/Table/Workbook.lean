import CryptoAudit.Files.Content
import CryptoAudit.Table.Basic

/-!
# Workbooks

The format of workbooks is not defined here: a reader of workbooks comes from outside. What is
known of such a reader is what kind of tables it makes.

## Main definitions

* `Table.IsSheet`: a table as a file holds it
* `WorkbookReader`: a reader of workbooks
* `WorkbookReader.Lawful`: what is asked of a reader
-/

namespace CryptoAudit

/-- A table as a file holds it, with its cells read as texts. -/
structure Table.IsSheet (t : Table) : Prop where
  /-- Headers may be values of any kind, but no two of them are equal. -/
  distinct : t.headers.Pairwise fun header other => (header == other) = false
  /-- Every row has a cell under each header. -/
  regular : ∀ row ∈ t.rows, row.length = t.headers.length
  /-- A cell is a text, whatever it holds in the file; only an error has no text, and is read as
  what is no number. -/
  texts : ∀ row ∈ t.rows, ∀ cell ∈ row, (∃ s, cell = .text s) ∨ cell = .float .nan

/-- A reader of workbooks: the table on the first sheet of the workbook that a file holds, or why
there is none. -/
abbrev WorkbookReader := Content → Except String Table

namespace WorkbookReader

/-- The reader that finds a workbook in no file. -/
def none : WorkbookReader := fun _ =>
  .error "Excel file format cannot be determined, you must specify an engine manually."

/-- The tables that a reader makes are such as files hold. -/
def Lawful (workbooks : WorkbookReader) : Prop :=
  ∀ content t, workbooks content = .ok t → t.IsSheet

end WorkbookReader

end CryptoAudit
