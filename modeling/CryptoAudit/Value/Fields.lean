/-!
# Ordered fields

An ordered list of keyed values. Setting a key that is present replaces its value in place;
setting a new one appends it.

## Main definitions

* `setField`: set one key
* `field?`: the value of a key
* `ofPairs`: a list of pairs set one after the other

## Main results

* `isSome_field?`: which keys have a value
* `keys_setField`: the keys after a key has been set
* `field?_setField_self`, `field?_setField_of_disjoint`: the values after a key has been set
* `setField_of_notMem`: a new key comes last
* `field?_eq_some_iff`: among distinct keys a value is found exactly if its pair is there
-/

namespace CryptoAudit

variable {κ β : Type} [BEq κ]

/-- The fields with the key `k` set to `v`. -/
def setField (k : κ) (v : β) : List (κ × β) → List (κ × β)
  | [] => [(k, v)]
  | (l, w) :: fields => if l == k then (l, v) :: fields else (l, w) :: setField k v fields

/-- The value of the key `k`. -/
def field? (k : κ) : List (κ × β) → Option β
  | [] => none
  | (l, w) :: fields => if l == k then some w else field? k fields

/-- The pairs set one after the other, so a repeated key keeps its first place and last value. -/
def ofPairs (pairs : List (κ × β)) : List (κ × β) :=
  pairs.foldl (fun fields (k, v) => setField k v fields) []

@[simp] theorem field?_nil (k : κ) : field? k ([] : List (κ × β)) = none := rfl

/-- A key has a value exactly if it is among the keys. -/
theorem isSome_field? (k : κ) (fields : List (κ × β)) :
    (field? k fields).isSome = (fields.map Prod.fst).any (· == k) := by
  induction fields with
  | nil => rfl
  | cons field fields ih =>
    obtain ⟨l, w⟩ := field
    by_cases h : l == k <;> simp [field?, h, ih]

/-- Setting a key keeps the keys, or appends the new one. -/
theorem keys_setField (k : κ) (v : β) (fields : List (κ × β)) :
    (setField k v fields).map Prod.fst =
      if (fields.map Prod.fst).any (· == k) then fields.map Prod.fst
      else fields.map Prod.fst ++ [k] := by
  induction fields with
  | nil => rfl
  | cons field fields ih =>
    obtain ⟨l, w⟩ := field
    by_cases h : l == k
    · simp [setField, h]
    · simp only [setField, h, Bool.false_eq_true, if_false, List.map_cons, ih, List.any_cons,
        Bool.false_or]
      split <;> rfl

/-- A value that is found stands under a key that equals the one asked for. -/
theorem exists_mem_of_field? {k : κ} {v : β} {fields : List (κ × β)}
    (h : field? k fields = some v) : ∃ l, (l == k) = true ∧ (l, v) ∈ fields := by
  induction fields with
  | nil => simp at h
  | cons field fields ih =>
    obtain ⟨l, w⟩ := field
    by_cases hl : l == k
    · simp only [field?, hl, if_true, Option.some.injEq] at h
      exact ⟨l, hl, h ▸ List.mem_cons_self⟩
    · simp only [field?, hl, Bool.false_eq_true, if_false] at h
      obtain ⟨m, hm, hmem⟩ := ih h
      exact ⟨m, hm, List.mem_cons_of_mem _ hmem⟩

theorem field?_setField_self {k : κ} (hk : (k == k) = true) (v : β) (fields : List (κ × β)) :
    field? k (setField k v fields) = some v := by
  induction fields with
  | nil => simp [setField, field?, hk]
  | cons field fields ih =>
    obtain ⟨l, w⟩ := field
    by_cases h : l == k <;> simp [setField, field?, h, ih]

/-- Setting one key leaves another alone if no key equals both. -/
theorem field?_setField_of_disjoint {k l : κ} (hk : (k == l) = false)
    (disjoint : ∀ m, (m == k) = true → (m == l) = false) (v : β) (fields : List (κ × β)) :
    field? l (setField k v fields) = field? l fields := by
  induction fields with
  | nil => simp [setField, field?, hk]
  | cons field fields ih =>
    obtain ⟨m, w⟩ := field
    by_cases hm : m == k
    · simp [setField, field?, hm, disjoint m hm]
    · simp [setField, field?, hm, ih]

section Lawful

variable [LawfulBEq κ]

theorem field?_setField_of_ne {k l : κ} (h : k ≠ l) (v : β) (fields : List (κ × β)) :
    field? l (setField k v fields) = field? l fields := by
  apply field?_setField_of_disjoint (by simpa using h)
  intro m hm
  rw [eq_of_beq hm]
  simpa using h

/-- A new key comes after all others. -/
theorem setField_of_notMem {k : κ} {fields : List (κ × β)} (h : k ∉ fields.map Prod.fst) (v : β) :
    setField k v fields = fields ++ [(k, v)] := by
  induction fields with
  | nil => rfl
  | cons field fields ih =>
    obtain ⟨l, w⟩ := field
    simp only [List.map_cons, List.mem_cons, not_or] at h
    have hl : (l == k) = false := by simpa using Ne.symm h.1
    simp [setField, hl, ih h.2]

theorem field?_eq_none_iff {k : κ} {fields : List (κ × β)} :
    field? k fields = none ↔ k ∉ fields.map Prod.fst := by
  rw [← Option.isNone_iff_eq_none, ← Option.isSome_eq_false_iff, isSome_field?,
    List.any_eq_false]
  simp only [beq_iff_eq]
  exact ⟨fun h hk => h k hk rfl, fun h l hl hlk => h (hlk ▸ hl)⟩

theorem mem_of_field? {k : κ} {v : β} {fields : List (κ × β)} (h : field? k fields = some v) :
    (k, v) ∈ fields := by
  obtain ⟨l, hl, hmem⟩ := exists_mem_of_field? h
  exact eq_of_beq hl ▸ hmem

/-- Among distinct keys a value is found exactly if its pair is there. -/
theorem field?_eq_some_iff {k : κ} {v : β} {fields : List (κ × β)}
    (distinct : (fields.map Prod.fst).Nodup) : field? k fields = some v ↔ (k, v) ∈ fields := by
  refine ⟨mem_of_field?, fun h => ?_⟩
  induction fields with
  | nil => simp at h
  | cons field fields ih =>
    obtain ⟨l, w⟩ := field
    simp only [List.map_cons, List.nodup_cons] at distinct
    rcases List.mem_cons.1 h with h | h
    · cases h
      simp [field?]
    · have hl : l ≠ k := by
        rintro rfl
        exact distinct.1 (List.mem_map_of_mem h)
      simp [field?, hl, ih distinct.2 h]

end Lawful

end CryptoAudit
