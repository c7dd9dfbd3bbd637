import CryptoAudit.Log.Logged
import CryptoAudit.Taxonomy.Entry

/-!
# Registries

A registry keeps, for each category, its entries by name in the order in which they were added.
Entries are added one by one, and a name that its category already has is refused. One name may
stand in several categories; the earliest of them is found first.

## Main definitions

* `Registry`: the entries of each category by name
* `Registry.insert`: one more entry
* `Registry.ofEntries`: the registry of a list of entries
* `Registry.entries`, `Registry.lookup`, `Registry.entriesFor`: reading a registry
* `Registry.collisions`: the names that stand in several categories
* `Registry.notices`: what is logged about a new registry

## Main results

* `Registry.insert_ok`, `Registry.insert_error`: when an entry is added and when refused
* `Registry.entriesFor_add`: an added entry comes last in its category
* `Registry.lookup_eq_some_iff`: looking up finds the entry with a category and a name
-/

namespace CryptoAudit

/-- Why a taxonomy cannot be built. -/
inductive TaxonomyError where
  | duplicate (name : String) (category : Category)
  | invalidEntry (errors : List FieldError)
  | unknownCategory (name : String)
  | unknownGroup (group : String) (category : Category)
  | notMapping (typeName : String)
  | noAlgorithms
  | unknownCategoryKey (key : Value)
  | notGroups (category : Category)
  | unknownGroupKey (category : Category) (key : Value)
  | notNames (category : Category) (group : String)
  | tooManyDigits

/-- Known algorithms: the entries of each category under their own names, no name twice. -/
structure Registry where
  buckets : PerCategory (List (String × Entry))
  keyed : ∀ c name e, (name, e) ∈ buckets.get c → e.category = c ∧ e.name = name
  distinct : ∀ c, ((buckets.get c).map Prod.fst).Nodup

namespace Registry

/-- The registry without entries. -/
def empty : Registry where
  buckets := .const []
  keyed := by simp
  distinct := by simp

variable (r : Registry)

/-- The entry of a category with exactly the given name. -/
def lookup (c : Category) (name : String) : Option Entry :=
  field? name (r.buckets.get c)

/-- The entries of a category. -/
def entriesFor (c : Category) : List Entry :=
  (r.buckets.get c).map Prod.snd

/-- The entries, category by category. -/
def entries : List Entry :=
  Category.all.flatMap r.entriesFor

instance : Membership Entry Registry := ⟨fun r e => e ∈ r.entries⟩

/-- A loop over a registry visits its entries. -/
instance {m : Type → Type} [Monad m] : ForIn m Registry Entry := ⟨fun r => forIn r.entries⟩

/-- The number of entries. -/
def size : Nat :=
  r.entries.length

/-- The registry with an entry whose name its category does not have. -/
def add (e : Entry) (fresh : r.lookup e.category e.name = none) : Registry where
  buckets := r.buckets.set e.category (setField e.name e (r.buckets.get e.category))
  keyed c name f hf := by
    rw [PerCategory.get_set] at hf
    split at hf
    · rename_i hc
      rw [setField_of_notMem (field?_eq_none_iff.1 fresh)] at hf
      rcases List.mem_append.1 hf with h | h
      · exact hc ▸ r.keyed _ name f h
      · obtain ⟨rfl, rfl⟩ := Prod.mk.inj (List.mem_singleton.1 h)
        exact ⟨hc.symm, rfl⟩
    · exact r.keyed c name f hf
  distinct c := by
    rw [PerCategory.get_set]
    split
    · rw [setField_of_notMem (field?_eq_none_iff.1 fresh), List.map_append, List.nodup_append]
      refine ⟨r.distinct _, by simp, ?_⟩
      rintro name hname _ hlast rfl
      obtain rfl : name = e.name := by simpa using hlast
      exact field?_eq_none_iff.1 fresh hname
    · exact r.distinct c

/-- The registry with one more entry, unless its category already has an entry of its name. -/
def insert (e : Entry) : Except TaxonomyError Registry :=
  match fresh : r.lookup e.category e.name with
  | some _ => .error (.duplicate e.name e.category)
  | none => .ok (r.add e fresh)

/-- The registry of a list of entries, which are added in their order. -/
def ofEntries (es : List Entry) : Except TaxonomyError Registry :=
  es.foldlM insert empty

/-- The registry in a few words. -/
def summary : String :=
  "TaxonomyRegistry(" ++ decimal r.size ++ " entries)"

/-! ### Names in several categories -/

/-- A name that stands in two categories, with the category that is found first. -/
structure Collision where
  name : String
  first : Category
  second : Category
deriving DecidableEq, Repr

/-- The collisions of entries with the entries before them. -/
def collisionsAfter (before : List Entry) : List Entry → List Collision
  | [] => []
  | e :: es =>
    match before.find? (·.name = e.name) with
    | some f => ⟨e.name, f.category, e.category⟩ :: collisionsAfter (before ++ [e]) es
    | none => collisionsAfter (before ++ [e]) es

/-- The collisions of a registry, in the order of the later entry. -/
def collisions : List Collision :=
  collisionsAfter [] r.entries

/-- The wording of a collision. -/
def Collision.message (c : Collision) : String :=
  "Canonical name " ++ c.name ++ " is registered under both " ++ c.first.name ++ " and " ++
    c.second.name ++ "; " ++ c.first.name ++ " wins on lookup."

/-- The name of the logger that speaks of registries. -/
def loggerName : String := "domain.algorithms.registry"

/-- The number of entries in each category. -/
def sizes : Value :=
  .map (Category.all.map fun c => (.text c.name, .int (r.entriesFor c).length))

/-- What is logged about a new registry: its collisions, then its sizes. -/
def notices : List Log.Record :=
  r.collisions.map (fun c => ⟨.warning, loggerName, c.message⟩) ++
    [⟨.debug, loggerName, "Built taxonomy registry: " ++ r.sizes.quoted⟩]

/-- The registry of a list of entries, with its notices. -/
def build (es : List Entry) : Log.Logged TaxonomyError Registry :=
  match ofEntries es with
  | .ok r => ⟨r.notices, .ok r⟩
  | .error e => ⟨[], .error e⟩

/-! ### Looking up -/

section Lookup

variable {r : Registry} {c : Category} {name : String} {e : Entry}

theorem mem_entriesFor : e ∈ r.entriesFor c ↔ (e.name, e) ∈ r.buckets.get c := by
  simp only [entriesFor, List.mem_map, Prod.exists, exists_eq_right]
  constructor
  · rintro ⟨name, h⟩
    obtain ⟨-, rfl⟩ := r.keyed c _ _ h
    exact h
  · exact fun h => ⟨_, h⟩

theorem category_of_mem_entriesFor (h : e ∈ r.entriesFor c) : e.category = c :=
  (r.keyed c _ _ (mem_entriesFor.1 h)).1

/-- The entries of the registry are those of their own categories. -/
theorem mem_entries : e ∈ r.entries ↔ e ∈ r.entriesFor e.category := by
  simp only [entries, List.mem_flatMap]
  constructor
  · rintro ⟨c, -, h⟩
    exact (category_of_mem_entriesFor h).symm ▸ h
  · exact fun h => ⟨_, e.category.mem_all, h⟩

/-- The entries of a category, picked from all entries. -/
theorem filter_entries (c : Category) :
    r.entries.filter (·.category = c) = r.entriesFor c := by
  have pick (d : Category) : (r.entriesFor d).filter (·.category = c) =
      if d = c then r.entriesFor c else [] := by
    split
    · rename_i h
      subst h
      refine List.filter_eq_self.2 fun e he => ?_
      simpa using category_of_mem_entriesFor he
    · rename_i h
      refine List.filter_eq_nil_iff.2 fun e he => ?_
      simpa [category_of_mem_entriesFor he] using h
  simp only [entries, Category.all, List.flatMap_cons, List.flatMap_nil, List.append_nil,
    List.filter_append, pick]
  cases c <;> simp

theorem lookup_eq_some_iff :
    r.lookup c name = some e ↔ e ∈ r.entries ∧ e.category = c ∧ e.name = name := by
  rw [lookup, field?_eq_some_iff (r.distinct c), mem_entries]
  constructor
  · intro h
    obtain ⟨rfl, rfl⟩ := r.keyed c _ _ h
    exact ⟨mem_entriesFor.2 h, rfl, rfl⟩
  · rintro ⟨h, rfl, rfl⟩
    exact mem_entriesFor.1 h

theorem lookup_eq_none_iff :
    r.lookup c name = none ↔ ∀ e ∈ r.entries, e.category = c → e.name ≠ name := by
  constructor
  · rintro h e he rfl rfl
    rw [lookup_eq_some_iff.2 ⟨he, rfl, rfl⟩] at h
    cases h
  · intro h
    cases hl : r.lookup c name with
    | none => rfl
    | some e =>
      obtain ⟨he, hc, hname⟩ := lookup_eq_some_iff.1 hl
      exact absurd hname (h e he hc)

end Lookup

/-! ### Adding entries -/

section Insert

variable {r : Registry} {e : Entry}

theorem insert_ok (fresh : r.lookup e.category e.name = none) :
    r.insert e = .ok (r.add e fresh) := by
  unfold insert
  split
  · rename_i h
    rw [fresh] at h
    cases h
  · rfl

theorem insert_error {f : Entry} (taken : r.lookup e.category e.name = some f) :
    r.insert e = .error (.duplicate e.name e.category) := by
  unfold insert
  split
  · rfl
  · rename_i h
    rw [taken] at h
    cases h

theorem entriesFor_empty (c : Category) : empty.entriesFor c = [] := by
  simp [entriesFor, empty]

/-- An added entry comes last in its category, and the other categories stay as they are. -/
theorem entriesFor_add (fresh : r.lookup e.category e.name = none) (c : Category) :
    (r.add e fresh).entriesFor c = r.entriesFor c ++ [e].filter (·.category = c) := by
  simp only [entriesFor, add, PerCategory.get_set]
  by_cases hc : c = e.category
  · subst hc
    rw [if_pos rfl, setField_of_notMem (field?_eq_none_iff.1 fresh)]
    simp
  · rw [if_neg hc]
    simp [Ne.symm hc]

end Insert

end Registry

end CryptoAudit
