import CryptoAudit.Taxonomy.Category
import CryptoAudit.Validation
import CryptoAudit.Value.Fields

/-!
# Entries

An entry of the taxonomy is a canonical name with its category and strength. A canonical name is
a non-empty run of ASCII capitals and digits.

## Main definitions

* `IsCanonical`: the names that entries may have
* `Entry`: an entry, with the proof that its name is canonical
* `Entry.read`: reading an entry from fields
* `Entry.describe`: the entry in running text
-/

namespace CryptoAudit

/-- Whether a character may stand in a canonical name. -/
def isCanonicalChar (c : Char) : Bool :=
  ('A' ≤ c && c ≤ 'Z') || ('0' ≤ c && c ≤ '9')

theorem toNat_of_isCanonicalChar {c : Char} (h : isCanonicalChar c = true) :
    48 ≤ c.toNat ∧ c.toNat ≤ 90 := by
  simp only [isCanonicalChar, Bool.or_eq_true, Bool.and_eq_true, decide_eq_true_eq,
    Char.le_def, UInt32.le_iff_toNat_le] at h
  change (65 ≤ c.toNat ∧ c.toNat ≤ 90) ∨ (48 ≤ c.toNat ∧ c.toNat ≤ 57) at h
  omega

/-- A canonical name is not empty and consists of capitals and digits. -/
def IsCanonical (s : String) : Prop :=
  s.toList ≠ [] ∧ s.toList.all isCanonicalChar = true

instance (s : String) : Decidable (IsCanonical s) :=
  inferInstanceAs (Decidable (_ ∧ _))

/-- A known algorithm. -/
structure Entry where
  category : Category
  name : String
  isWeak : Bool
  canonical : IsCanonical name
deriving DecidableEq, Repr

namespace Entry

/-- What tells an entry from all others of a registry. -/
def key (e : Entry) : Category × String :=
  (e.category, e.name)

/-- The strength of an entry in words. -/
def strength (e : Entry) : String :=
  if e.isWeak then "weak" else "strong"

/-- The entry in running text. -/
def describe (e : Entry) : String :=
  e.strength ++ " " ++ e.category.phrase ++ " algorithm " ++ e.name

/-- The name of a category, read as the category. -/
def readCategory (v : Value) : Except Complaint Category :=
  match v with
  | .text s => match Category.ofName? s with
    | some c => .ok c
    | none => .error .notCategory
  | _ => .error .notCategory

/-- A canonical name. -/
def readName (v : Value) : Except Complaint { s : String // IsCanonical s } :=
  match readText v with
  | .error c => .error c
  | .ok s =>
    if s.toList = [] then .error .emptyText
    else if h : IsCanonical s then .ok ⟨s, h⟩
    else .error (.notCanonical s)

/-- The entry made of three fields, or the errors of all fields in order. -/
def make (category name isWeak : Option Value) : Except (List FieldError) Entry :=
  let c := required readCategory category
  let n := required readName name
  let w := required readBool isWeak
  match c, n, w with
  | .ok c, .ok n, .ok w => .ok ⟨c, n.1, w, n.2⟩
  | c, n, w =>
    .error (errorsAt [.field "category"] c ++ errorsAt [.field "name"] n ++
      errorsAt [.field "is_weak"] w)

/-- The entry that a list of fields describes; other fields are ignored. -/
def read (fields : List (Value × Value)) : Except (List FieldError) Entry :=
  let field (name : String) := field? (Value.text name) fields
  make (field "category") (field "name") (field "is_weak")

/-- The entry of a given category and strength with the name in a value. -/
def named (category : Category) (isWeak : Bool) (name : Value) :
    Except (List FieldError) Entry :=
  make (some (.text category.name)) (some name) (some (.bool isWeak))

/-- An entry cannot be changed: setting any field is an error. -/
def set (_ : Entry) (field : String) : List FieldError :=
  [⟨[.field field], .frozen⟩]

theorem name_ne_nil (e : Entry) : e.name.toList ≠ [] := e.canonical.1

end Entry

end CryptoAudit
