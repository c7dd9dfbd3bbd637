import CryptoAudit.Classify
import CryptoAudit.Scan.Candidate

/-!
# Classified tables

The names of a table are classified one after the other, and the outcomes are collected in one
list for each of four columns. The lists are set into the table, and a fifth column says which
rows are matched. A result column takes the place of a column that has its header.

## Main definitions

* `Outcomes`: the cells of the first four result columns
* `Outcomes.add`: the cells for one more name
* `outcomesOf`: the cells for the names of a column
* `classifyTable`: a table with its result columns
-/

namespace CryptoAudit

namespace ResultColumn

/-- The header of the column of categories. -/
def category : String := "algorithm_category"

/-- The header of the column of canonical names. -/
def name : String := "algorithm_name"

/-- The header of the column that says whether the algorithm is weak. -/
def isWeak : String := "algorithm_is_weak"

/-- The header of the column of messages. -/
def message : String := "finding_message"

/-- The header of the column that says whether the row is matched. -/
def matched : String := "algorithm_matched"

end ResultColumn

/-- What is said about an entry that was found. -/
def Entry.finding (e : Entry) : String :=
  "Use of " ++ e.describe

/-- The cells of four result columns, one in each for every name so far. -/
structure Outcomes where
  categories : List Value
  names : List Value
  weakFlags : List Value
  messages : List Value

namespace Outcomes

/-- The cells before the first name. -/
def empty : Outcomes :=
  ⟨[], [], [], []⟩

/-- The cells with those for one more name. A name without an entry leaves all of its cells
empty. -/
def add (o : Outcomes) (found : Option Entry) : Outcomes :=
  match found with
  | none =>
    ⟨o.categories ++ [.null], o.names ++ [.null], o.weakFlags ++ [.null], o.messages ++ [.null]⟩
  | some e =>
    ⟨o.categories ++ [.text e.category.name], o.names ++ [.text e.name],
      o.weakFlags ++ [.bool e.isWeak], o.messages ++ [.text e.finding]⟩

/-- The table with four result columns. -/
def setInto (o : Outcomes) (t : Table) : Table :=
  (((t.setColumn ResultColumn.category o.categories).setColumn ResultColumn.name
    o.names).setColumn ResultColumn.isWeak o.weakFlags).setColumn ResultColumn.message o.messages

end Outcomes

/-- The cells of the result columns with those for the name in one more cell. -/
def classifyCell (r : Registry) (o : Outcomes) (cell : Value) : Except ScanError Outcomes :=
  (candidateName cell).map fun name => o.add (r.classify name)

/-- The cells of the result columns for the names in a column. -/
def outcomesOf (r : Registry) (cells : List Value) : Except ScanError Outcomes :=
  cells.foldlM (classifyCell r) Outcomes.empty

/-- The table with a column that says which rows have a canonical name. -/
def setMatched (t : Table) : Except ScanError Table :=
  (t.column ResultColumn.name).map fun names =>
    t.setColumn ResultColumn.matched (names.map fun v => .bool (!isMissing v))

/-- What is logged about a classified table. -/
def classifiedNotice (t : Table) : Except ScanError Log.Record :=
  (t.column ResultColumn.matched).map fun flags =>
    ⟨.info, scanLogger, "Classified " ++ decimal t.rows.length ++ " candidates: " ++
      decimal (flags.countP Value.isTruthy) ++ " matched"⟩

/-- The table with its names classified. -/
def classifyTable (r : Registry) (t : Table) (column : String) :
    Log.Logged ScanError Table := do
  let names ← .ofExcept (t.column column)
  let outcomes ← .ofExcept (outcomesOf r names)
  let out ← .ofExcept (setMatched (outcomes.setInto t))
  .writeAll [← .ofExcept (classifiedNotice out)]
  return out

end CryptoAudit
