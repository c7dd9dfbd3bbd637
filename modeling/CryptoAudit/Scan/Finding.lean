import CryptoAudit.Json.Write
import CryptoAudit.Scan.Classified

/-!
# Findings

A finding is a matched row that the settings ask for: a weak one, or any, of the given categories
or of all. The findings of a classified table are found by masks over its result columns. Each is
reported as a record of the name, the outcome and the location columns. A location column that
has the name of an earlier field of the record takes its place.

## Main definitions

* `both`: the rows at which two masks are set
* `findingMask`, `selectFindings`: the findings of a table
* `findingRecord`, `findingRecords`: findings as records
* `writeRecords`: records written to a file
-/

namespace CryptoAudit

/-! ### Selecting rows -/

/-- The rows at which two masks are set. -/
def both (mask mask' : List Bool) : List Bool :=
  List.zipWith (· && ·) mask mask'

/-- The rows whose entry has the given strength. -/
def strengthMask (t : Table) (isWeak : Bool) : Except ScanError (List Bool) :=
  (t.column ResultColumn.isWeak).map fun cells => cells.map (· == .bool isWeak)

/-- The rows whose category is one of those given. -/
def categoryMask (t : Table) (categories : List Category) : Except ScanError (List Bool) :=
  (t.column ResultColumn.category).map fun cells =>
    cells.map fun v => categories.any fun c => v == .text c.name

/-- The matched rows. -/
def matchedMask (t : Table) : Except ScanError (List Bool) :=
  (t.column ResultColumn.matched).map fun cells => cells.map Value.isTruthy

/-- A mask narrowed by another one if that is asked for. -/
def narrowIf (asked : Bool) (mask : List Bool) (other : Except ScanError (List Bool)) :
    Except ScanError (List Bool) :=
  if asked then other.map (both mask) else .ok mask

/-- The rows to report. No categories and an empty list of them mean all. -/
def findingMask (weakOnly : Bool) (categories : Option (List Category)) (t : Table) :
    Except ScanError (List Bool) := do
  let asked := categories.getD []
  let mask ← matchedMask t
  let mask ← narrowIf weakOnly mask (strengthMask t true)
  narrowIf (!asked.isEmpty) mask (categoryMask t asked)

/-- The table of the rows to report. -/
def selectFindings (weakOnly : Bool) (categories : Option (List Category)) (t : Table) :
    Except ScanError Table :=
  (findingMask weakOnly categories t).map t.select

/-! ### Records -/

/-- Fields set into others, one after the other. -/
def setAll (fields : List (Value × Value)) (new : List (Value × Value)) :
    List (Value × Value) :=
  new.foldl (fun fields (k, v) => setField k v fields) fields

/-- The fields of a record before its location columns. -/
def baseFields (t : Table) (column : String) (row : List Value) :
    Except ScanError (List (Value × Value)) := do
  return [(.text "name", ← t.cell column row),
    (.text "category", ← t.cell ResultColumn.category row),
    (.text "canonical_name", ← t.cell ResultColumn.name row),
    (.text "is_weak", .bool (← t.cell ResultColumn.isWeak row).isTruthy),
    (.text "message", ← t.cell ResultColumn.message row)]

/-- The location columns of a row, each under its header. -/
def locationFields (t : Table) (row : List Value) (locations : List String) :
    Except ScanError (List (Value × Value)) :=
  locations.mapM fun header => (t.cell header row).map fun v => (.text header, v)

/-- A finding as a record. -/
def findingRecord (t : Table) (columns : ScanColumns) (row : List Value) :
    Except ScanError (List (Value × Value)) := do
  return setAll (← baseFields t columns.name row) (← locationFields t row columns.locations)

/-- The findings of a table of findings as records. -/
def findingRecords (t : Table) (columns : ScanColumns) : Except ScanError (List Value) :=
  t.rows.mapM fun row => (findingRecord t columns row).map .map

/-- What is logged about findings that were written. -/
def savedNotice (count : Nat) (path : Path) : Log.Record :=
  ⟨.info, "application.serialize",
    "Saved " ++ decimal count ++ " findings to " ++ path.text⟩

/-- The store with records at the end of a path. -/
def writeRecords (files : Files) (records : List Value) (path : Path) :
    Files × Except ArtifactError Unit :=
  files.writeJson path (.list records)

end CryptoAudit
