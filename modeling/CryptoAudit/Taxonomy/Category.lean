/-!
# Categories

The taxonomy has three categories, searched in a fixed order.

## Main definitions

* `Category`: the purpose of an algorithm
* `Category.all`: the categories in search order
* `Category.rank`: the place of a category in that order
* `Category.name`, `Category.phrase`: how a category is written
* `PerCategory`: one thing for each category
-/

namespace CryptoAudit

/-- The purpose of an algorithm. -/
inductive Category where
  | hashing
  | encryption
  | passwordHashing
deriving DecidableEq, Repr, Inhabited

namespace Category

/-- The categories in the order in which they are searched. -/
def all : List Category :=
  [.hashing, .encryption, .passwordHashing]

/-- The place of a category in the order of search. -/
def rank (c : Category) : Nat :=
  all.idxOf c

/-- The name of a category. -/
def name : Category → String
  | .hashing => "Hashing"
  | .encryption => "Encryption"
  | .passwordHashing => "PasswordHashing"

/-- The category in running text. -/
def phrase : Category → String
  | .hashing => "hashing"
  | .encryption => "encryption"
  | .passwordHashing => "password hashing"

/-- The category with a name. -/
def ofName? (s : String) : Option Category :=
  all.find? (·.name = s)

theorem mem_all (c : Category) : c ∈ all := by
  cases c <;> decide

theorem nodup_all : all.Nodup := by decide

theorem ofName?_name (c : Category) : ofName? c.name = some c := by
  cases c <;> decide

theorem name_of_ofName? {s : String} {c : Category} (h : ofName? s = some c) : c.name = s := by
  simpa using List.find?_some h

theorem name_injective {c d : Category} (h : c.name = d.name) : c = d := by
  rw [← Option.some_inj, ← ofName?_name, h, ofName?_name]

theorem rank_injective {c d : Category} (h : c.rank = d.rank) : c = d := by
  cases c <;> cases d <;> first | rfl | exact absurd h (by decide)

end Category

/-- One thing for each category. -/
structure PerCategory (α : Type) where
  hashing : α
  encryption : α
  passwordHashing : α
deriving DecidableEq, Repr

namespace PerCategory

variable {α : Type}

/-- The same thing for every category. -/
def const (a : α) : PerCategory α :=
  ⟨a, a, a⟩

/-- The thing for a category. -/
def get (x : PerCategory α) : Category → α
  | .hashing => x.hashing
  | .encryption => x.encryption
  | .passwordHashing => x.passwordHashing

/-- Replace the thing for a category. -/
def set (x : PerCategory α) (c : Category) (a : α) : PerCategory α :=
  match c with
  | .hashing => { x with hashing := a }
  | .encryption => { x with encryption := a }
  | .passwordHashing => { x with passwordHashing := a }

@[simp] theorem get_const (a : α) (c : Category) : (const a).get c = a := by
  cases c <;> rfl

@[simp] theorem get_set (x : PerCategory α) (c d : Category) (a : α) :
    (x.set c a).get d = if d = c then a else x.get d := by
  cases c <;> cases d <;> rfl

end PerCategory

end CryptoAudit
