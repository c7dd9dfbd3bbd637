import CryptoAudit.Scan.Finding

/-!
# Summaries of scans

A summary counts the rows of a classified table by outcome, by category and strength, and by weak
name. The counts are taken from the result columns.

## Main definitions

* `Summary`: the counts
* `Summary.ofTable`: the counts of a classified table
* `Summary.toValue`: the counts as they are written
-/

namespace CryptoAudit

/-- The counts of a scan. -/
structure Summary where
  candidates : Nat
  matched : Nat
  unmatched : Nat
  weak : Nat
  strong : Nat
  /-- For each category the numbers of weak and of strong rows. -/
  byCategory : List (Category × Nat × Nat)
  /-- The weak names with their numbers of rows. -/
  weakNames : List (String × Nat)
deriving DecidableEq, Repr, Inhabited

/-- The number of rows at which a mask is set. -/
def marked (mask : List Bool) : Nat :=
  mask.countP id

/-- The distinct items of a list in the order of their first appearance, with their numbers. -/
def tally {κ : Type} [BEq κ] (items : List κ) : List (κ × Nat) :=
  items.foldl (fun counts x => setField x ((field? x counts).getD 0 + 1) counts) []

/-- Numbered items by descending number, those of one number in their given order. -/
def byNumber {κ : Type} (counts : List (κ × Nat)) : List (κ × Nat) :=
  counts.mergeSort fun a b => b.2 ≤ a.2

/-- The items of a list with their numbers, the most frequent ones first. Missing values do not
count. -/
def valueCounts (cells : List Value) : List (Value × Nat) :=
  byNumber (tally (cells.filter fun v => !isMissing v))

namespace Summary

/-- The numbers of weak and of strong rows of a category. -/
def kindCounts (t : Table) (weak strong : List Bool) (c : Category) :
    Except ScanError (Category × Nat × Nat) :=
  (categoryMask t [c]).map fun inCategory =>
    (c, marked (both inCategory weak), marked (both inCategory strong))

/-- The counts of a classified table. -/
def ofTable (t : Table) : Except ScanError Summary := do
  let matched ← matchedMask t
  let weak ← strengthMask t true
  let strong ← strengthMask t false
  let byCategory ← Category.all.mapM (kindCounts t weak strong)
  let weakNames := valueCounts (keep weak (← t.column ResultColumn.name))
  return {
    candidates := t.rows.length
    matched := marked matched
    unmatched := marked (matched.map not)
    weak := marked weak
    strong := marked strong
    byCategory := byCategory
    weakNames := weakNames.map fun (name, n) => (name.display, n) }

/-- A number as a value. -/
def count (n : Nat) : Value := .int n

/-- The counts as they are written. -/
def toValue (s : Summary) : Value :=
  let category : Category × Nat × Nat → Value × Value
    | (c, weak, strong) =>
      (.text c.name, .map [(.text "weak", count weak), (.text "strong", count strong)])
  .map [(.text "candidates", count s.candidates), (.text "matched", count s.matched),
    (.text "unmatched", count s.unmatched), (.text "weak", count s.weak),
    (.text "strong", count s.strong), (.text "by_category", .map (s.byCategory.map category)),
    (.text "weak_algorithms", .map (s.weakNames.map fun (name, n) => (.text name, count n)))]

end Summary

end CryptoAudit
