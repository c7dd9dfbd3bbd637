import CryptoAudit.Files.Store
import CryptoAudit.Table.Basic
import CryptoAudit.Table.Csv
import CryptoAudit.Table.Workbook
import CryptoAudit.Text.Case

/-!
# Reading tables

The first record of a comma-separated file gives the headers. A header is never empty and never
repeated. The first row may have more cells than there are headers: then as many cells are left
out at the start of every row. Later rows have at most as many cells as the first, and missing
cells are empty. Workbooks are read by a reader that is given.

## Main definitions

* `TableError`: why a table cannot be read
* `distinctHeaders`: the headers made distinct
* `Table.ofRecords`: the table made of records
* `Table.read`: the table in a file
-/

namespace CryptoAudit

/-- Why a table cannot be read. -/
inductive TableError where
  | noFile (path : String)
  | unreadable (e : FileError)
  | unknownFormat (suffix : String)
  | noWorkbook (reason : String)
  | noColumns
  | openQuote (line : Nat)
  | tooManyCells (expected line found : Nat)

/-- The wording of an error. -/
def TableError.message : TableError → String
  | .noFile path => "Data file not found: " ++ path
  | .unreadable e => e.message
  | .unknownFormat suffix =>
    "Unsupported file format: " ++ suffix ++ ". Supported formats: .xlsx, .xls, .csv"
  | .noWorkbook reason => reason
  | .noColumns => "No columns to parse from file"
  | .openQuote line =>
    "Error tokenizing data. C error: EOF inside string starting at row " ++ decimal line
  | .tooManyCells expected line found =>
    "Error tokenizing data. C error: Expected " ++ decimal expected ++ " fields in line " ++
      decimal line ++ ", saw " ++ decimal found ++ "\n"

/-! ### Headers -/

/-- The header with the number of its column, in place of an empty one. -/
def headerOr (i : Nat) (header : String) : String :=
  if header = "" then "Unnamed: " ++ decimal i else header

/-- The first numbered variant of a name that is not taken, with its number. -/
def variant (taken : List String) (name : String) : Nat → Nat → String × Nat
  | 0, k => (name ++ "." ++ decimal k, k)
  | fuel + 1, k =>
    let candidate := name ++ "." ++ decimal k
    if taken.contains candidate then variant taken name fuel (k + 1) else (candidate, k)

/-- The headers so far, and how often each name was met. -/
abbrev Naming := List String × List (String × Nat)

/-- Make the header of one column distinct from those that were met. -/
def distinguish (naming : Naming) (i : Nat) : Naming :=
  let (names, counts) := naming
  let name := names.getD i ""
  match field? name counts with
  | none => (names, setField name 1 counts)
  | some k =>
    let (fresh, k) := variant names name names.length k
    (names.set i fresh, setField fresh 1 (setField name (k + 1) counts))

/-- The headers made distinct: repeated ones are numbered, those that were given before those
that were not. -/
def distinctHeaders (headers : List String) : List String :=
  let indexed := headers.zipIdx
  let order := (indexed.filter (·.1 ≠ "")) ++ (indexed.filter (·.1 = ""))
  ((order.map (·.2)).foldl distinguish (indexed.map fun (h, i) => headerOr i h, [])).1

example : distinctHeaders ["a", "a", "a.1", "", ""] =
    ["a", "a.2", "a.1", "Unnamed: 3", "Unnamed: 4"] := by decide +kernel

/-! ### Rows -/

/-- The rows after the first, if none has more than `width` cells. -/
def checkRows (width : Nat) : List (Nat × List String) → Except TableError (List (List String))
  | [] => .ok []
  | (line, cells) :: rows =>
    if width < cells.length then .error (.tooManyCells width line cells.length)
    else (cells :: ·) <$> checkRows width rows

/-- The cells of a row, with empty ones up to a width, and the first `extra` left out. -/
def fitRow (width extra : Nat) (cells : List String) : List String :=
  (cells ++ List.replicate (width - cells.length) "").drop extra

namespace Table

/-- The table made of records. -/
def ofRecords (r : Csv.Records) : Except TableError Table := do
  let rows := r.records.tail
  let headers := (r.records.head?.map (·.2)).getD []
  let first := (rows.head?.map (·.2.length)).getD 0
  let width := max headers.length first
  let rows ← checkRows width rows
  if let some line := r.open? then throw (.openQuote line)
  if headers.isEmpty then throw .noColumns
  return ofText (distinctHeaders headers) (rows.map (fitRow width (width - headers.length)))

/-- The text of a file. -/
def fileText (files : Files) (path : Path) : Except TableError String := do
  match ← (files.read path).mapError .unreadable with
  | .text s => return s
  | .binary _ => throw (.unreadable .notText)

/-- The table in a file. The format follows from the end of the file's name. -/
def read (files : Files) (path : Path) (workbooks : WorkbookReader := .none) :
    Except TableError Table := do
  if !(← (files.contains path).mapError .unreadable) then throw (.noFile path.text)
  let suffix := Text.lower path.suffix
  if suffix = ".xlsx" || suffix = ".xls" then
    (workbooks (← (files.read path).mapError .unreadable)).mapError .noWorkbook
  else if suffix = ".csv" then ofRecords (Csv.records (← fileText files path))
  else throw (.unknownFormat suffix)

end Table

end CryptoAudit
