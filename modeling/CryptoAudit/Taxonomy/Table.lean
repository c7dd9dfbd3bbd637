import CryptoAudit.Taxonomy.Registry

/-!
# Registries from tables

A table lists, for each category, groups of names by strength. The names have to be canonical
already.

## Main definitions

* `gather`: the results of a list of steps, or the first failure
* `isWeakGroup?`: the two groups
* `Registry.ofTable`: the registry of a table
-/

namespace CryptoAudit

variable {α β ε : Type}

/-- The results of a step for all items in a row, or the failure of the first item that fails. -/
def gather (f : α → Except ε (List β)) : List α → Except ε (List β)
  | [] => .ok []
  | x :: xs =>
    match f x with
    | .error e => .error e
    | .ok ys =>
      match gather f xs with
      | .error e => .error e
      | .ok zs => .ok (ys ++ zs)

@[simp] theorem gather_nil (f : α → Except ε (List β)) : gather f [] = .ok [] := rfl

theorem gather_eq_ok_cons {f : α → Except ε (List β)} {x : α} {xs : List α} {ys zs : List β}
    (hx : f x = .ok ys) (hxs : gather f xs = .ok zs) : gather f (x :: xs) = .ok (ys ++ zs) := by
  simp [gather, hx, hxs]

theorem gather_error_cons {f : α → Except ε (List β)} {x : α} {xs : List α} {e : ε}
    (hx : f x = .error e) : gather f (x :: xs) = .error e := by
  simp [gather, hx]

/-- Whether a group holds weak algorithms, for the two groups that there are. -/
def isWeakGroup? (group : String) : Option Bool :=
  if group = "strong" then some false else if group = "weak" then some true else none

namespace Registry

/-- The entry of one listed name. -/
def namedEntry (c : Category) (isWeak : Bool) (name : Value) :
    Except TaxonomyError (List Entry) :=
  match Entry.named c isWeak name with
  | .ok e => .ok [e]
  | .error errors => .error (.invalidEntry errors)

/-- The entries of one group of a category. -/
def groupEntries (c : Category) : String × List Value → Except TaxonomyError (List Entry)
  | (group, names) =>
    match isWeakGroup? group with
    | none => .error (.unknownGroup group c)
    | some isWeak => gather (namedEntry c isWeak) names

/-- The entries of a table, category by category and group by group. -/
def tableEntries (table : List (Category × List (String × List Value))) :
    Except TaxonomyError (List Entry) :=
  gather (fun (c, groups) => gather (groupEntries c) groups) table

/-- The registry of a table, with its notices. -/
def ofTable (table : List (Category × List (String × List Value))) :
    Log.Logged TaxonomyError Registry :=
  match tableEntries table with
  | .ok es => build es
  | .error e => .fail e

end Registry

end CryptoAudit
