import CryptoAudit.Value.Fields
import CryptoAudit.Value.Text

/-!
# Tables

A table has headers and rows of cells below them. Headers and cells are values; a table that was
read from a file holds text only.

## Main definitions

* `Table`: headers and rows
* `Table.ofText`: a table of texts
* `Table.hasColumn`, `Table.column?`: reading a table
* `Table.setColumn`: set one column
* `keep`, `Table.select`: the rows at which a mask is set
-/

namespace CryptoAudit

/-- Headers and the rows below them. -/
structure Table where
  headers : List Value
  rows : List (List Value)
deriving Repr, Inhabited

/-- The items at which a mask is set. -/
def keep {α : Type} (mask : List Bool) (xs : List α) : List α :=
  ((xs.zip mask).filter (·.2)).map (·.1)

namespace Table

/-- A table of texts. -/
def ofText (headers : List String) (rows : List (List String)) : Table :=
  ⟨headers.map .text, rows.map fun row => row.map .text⟩

/-- Whether a table has a column with a header. -/
def hasColumn (t : Table) (header : String) : Bool :=
  t.headers.any (· == .text header)

/-- A row with the headers that its cells stand under. -/
def fields (t : Table) (row : List Value) : List (Value × Value) :=
  t.headers.zip row

/-- The cell of a row under a header, if there is one. -/
def cell? (t : Table) (header : String) (row : List Value) : Option Value :=
  field? (Value.text header) (t.fields row)

/-- The cells under a header, if the table has the column. A row that ends before the column has
nothing there. -/
def column? (t : Table) (header : String) : Option (List Value) :=
  if t.hasColumn header then some (t.rows.map fun row => (t.cell? header row).getD .null)
  else none

/-- A row with its cell under a header set. -/
def setCell (t : Table) (header : String) (row : List Value) (cell : Value) : List Value :=
  (setField (Value.text header) cell (t.fields row)).map (·.2)

/-- Set the cells of a column, one for each row. The column takes the place of one with its
header; a new column comes last. -/
def setColumn (t : Table) (header : String) (cells : List Value) : Table where
  headers := if t.hasColumn header then t.headers else t.headers ++ [.text header]
  rows := List.zipWith (t.setCell header) t.rows cells

/-- The rows at which a mask is set. -/
def select (t : Table) (mask : List Bool) : Table :=
  { t with rows := keep mask t.rows }

end Table

end CryptoAudit
