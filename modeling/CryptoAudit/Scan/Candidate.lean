import CryptoAudit.Scan.Columns

/-!
# Names in cells

A cell of the column of names is read as a name. Cells of a table that was read from a file hold
text, which is the name; other tables may hold any values.

## Main definitions

* `isMissing`: whether a value stands for a missing one
* `candidateName`: the name in a cell
-/

namespace CryptoAudit

/-- Whether a value stands for a missing one. -/
def isMissing : Value → Bool
  | .null => true
  | .float .nan => true
  | _ => false

/-- The common start of two lists. -/
def commonStart : List Nat → List Nat → List Nat
  | x :: xs, y :: ys => if x = y then x :: commonStart xs ys else []
  | _, _ => []

mutual

/-- The lengths of a list, of its items if they are lists of one length, and so on. -/
def lengths : Value → List Nat
  | .list [] => [0]
  | .list (v :: vs) => (vs.length + 1) :: lengthsOf (lengths v) vs
  | _ => []

/-- The lengths that items have in common with the given ones. -/
def lengthsOf (common : List Nat) : List Value → List Nat
  | [] => common
  | v :: vs => lengthsOf (commonStart common (lengths v)) vs

end

/-- The only value inside lists of one item. -/
def onlyItem : Value → Value
  | .list [v] => onlyItem v
  | v => v

/-- The name in a cell: missing values have the empty name, and all others their text. A list
tells whether it is missing only by a single item. -/
def candidateName (cell : Value) : Except ScanError String :=
  match cell with
  | .list vs =>
    match (lengths (.list vs)).foldr (· * ·) 1 with
    | 0 => .error .emptyCell
    | 1 => .ok (if isMissing (onlyItem cell) then "" else cell.display)
    | _ => .error .manyInCell
  | v => .ok (if isMissing v then "" else v.display)

@[simp] theorem candidateName_text (s : String) : candidateName (.text s) = .ok s := rfl

end CryptoAudit
