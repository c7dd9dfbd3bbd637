import CryptoAudit.Number.Binary64
import CryptoAudit.Path

/-!
# Values

The values that settings files, tables and records are made of: nothing, truth values, numbers,
text, bytes, points in time, paths, and lists, pairs, mappings and sets of values. A mapping is
an ordered list of entries.

## Main definitions

* `Value`: the type
* `Value.equals`: equality, in which a truth value is the number zero or one and numbers are
  equal by size
* `Value.isTruthy`: whether a value counts as present
* `Value.items?`: the items of a list, a pair or a set
* `Value.typeName`: the name of a value's type
-/

namespace CryptoAudit

/-- A calendar date. -/
structure Date where
  year : Nat
  month : Nat
  day : Nat
deriving DecidableEq, Repr, Inhabited

/-- A point in time, with the distance from universal time in seconds if that is known. -/
structure Moment where
  date : Date
  hour : Nat
  minute : Nat
  second : Nat
  micro : Nat
  offset : Option Int
deriving DecidableEq, Repr, Inhabited

/-- A value of a settings file, a table cell or a record. -/
inductive Value where
  | null
  | bool (b : Bool)
  | int (n : Int)
  | float (x : Binary64)
  | text (s : String)
  | bytes (bs : List UInt8)
  | date (d : Date)
  | moment (t : Moment)
  | path (p : Path)
  | list (items : List Value)
  | pair (first second : Value)
  | map (entries : List (Value × Value))
  | set (items : List Value)
deriving Repr, Inhabited

namespace Value

/-- The integer that a number or a truth value equals. -/
def integer? : Value → Option Int
  | .bool b => some (if b then 1 else 0)
  | .int n => some n
  | .float x => x.toInt?
  | _ => none

mutual

/-- Whether two values are equal: numbers and truth values by size, all else by structure. -/
def equals : Value → Value → Bool
  | .null, .null => true
  | .float x, .float y => x.equals y
  | .text s, .text t => s == t
  | .bytes s, .bytes t => s == t
  | .date d, .date e => d == e
  | .moment t, .moment u => t == u
  | .path p, .path q => p == q
  | .list xs, .list ys => allEqual xs ys
  | .pair a b, .pair c d => a.equals c && b.equals d
  | .map xs, .map ys => entriesEqual xs ys
  | .set xs, .set ys => allEqual xs ys
  | x, y => x.integer?.isSome && x.integer? == y.integer?

/-- Whether two lists are equal item by item. -/
def allEqual : List Value → List Value → Bool
  | [], [] => true
  | x :: xs, y :: ys => x.equals y && allEqual xs ys
  | _, _ => false

/-- Whether two mappings are equal entry by entry. -/
def entriesEqual : List (Value × Value) → List (Value × Value) → Bool
  | [], [] => true
  | (k, v) :: xs, (l, w) :: ys => k.equals l && v.equals w && entriesEqual xs ys
  | _, _ => false

end

instance : BEq Value := ⟨equals⟩

/-- Whether a value counts as present: nothing, zero and what is empty do not. -/
def isTruthy : Value → Bool
  | .null => false
  | .bool b => b
  | .int n => n != 0
  | .float x => !x.isZero
  | .text s => s != ""
  | .bytes bs => !bs.isEmpty
  | .list xs => !xs.isEmpty
  | .map es => !es.isEmpty
  | .set xs => !xs.isEmpty
  | _ => true

/-- The items of a list, a pair or a set. -/
def items? : Value → Option (List Value)
  | .list vs => some vs
  | .pair v w => some [v, w]
  | .set vs => some vs
  | _ => none

/-- The name of a value's type. -/
def typeName : Value → String
  | .null => "NoneType"
  | .bool _ => "bool"
  | .int _ => "int"
  | .float _ => "float"
  | .text _ => "str"
  | .bytes _ => "bytes"
  | .date _ => "date"
  | .moment _ => "datetime"
  | .path _ => "PosixPath"
  | .list _ => "list"
  | .pair _ _ => "tuple"
  | .map _ => "dict"
  | .set _ => "set"

/-- The name of a value's type with the module that holds it. -/
def qualifiedTypeName (v : Value) : String :=
  match v with
  | .date _ | .moment _ => "datetime." ++ v.typeName
  | .path _ => "pathlib." ++ v.typeName
  | _ => v.typeName

@[simp] theorem equals_text (s t : String) : (Value.text s == Value.text t) = (s == t) := by
  simp [BEq.beq, equals]

/-- A text equals nothing but itself. -/
theorem beq_text_iff {v : Value} {s : String} : (v == .text s) = true ↔ v = .text s := by
  change v.equals (.text s) = true ↔ v = .text s
  cases v with
  | float x => cases h : x.toInt? <;> simp [equals, integer?, h]
  | _ => simp [equals, integer?]

end Value

end CryptoAudit
