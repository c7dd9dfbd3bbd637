import CryptoAudit.Name.Forms
import CryptoAudit.Taxonomy.Registry

/-!
# Classification of names

A raw name is matched exactly, by one of its forms. The forms are tried in order, and for each
form the categories in theirs, so a match by the full form is never shadowed by a short form.

## Main definitions

* `Registry.find?`: the entry with a name in the earliest category
* `Registry.classify`: the entry that a raw name denotes

## Main results

* `Registry.find?_eq_none_iff`, `Registry.rank_le_of_find?`: what is found under a name
* `Registry.classify_eq_or`: the full form first, then the short form
-/

namespace CryptoAudit.Registry

variable (r : Registry)

/-- The entry with a name in the earliest category that holds the name. -/
def find? (name : String) : Option Entry :=
  Category.all.findSome? fun c => r.lookup c name

/-- The entry that a raw name denotes, if any. The empty form denotes nothing. -/
def classify (raw : String) : Option Entry :=
  ((Name.forms raw).filter (· ≠ "")).findSome? r.find?

section

variable {r} {name raw : String} {e : Entry}

theorem mem_of_find? (h : r.find? name = some e) : e ∈ r.entries ∧ e.name = name := by
  obtain ⟨c, _, hc⟩ := List.exists_of_findSome?_eq_some h
  have := lookup_eq_some_iff.1 hc
  exact ⟨this.1, this.2.2⟩

theorem find?_eq_none_iff : r.find? name = none ↔ ∀ e ∈ r.entries, e.name ≠ name := by
  simp only [find?, List.findSome?_eq_none_iff, lookup_eq_none_iff]
  exact ⟨fun h e he => h e.category e.category.mem_all e he rfl, fun h c _ e he _ => h e he⟩

/-- The entry that is found has the name in the earliest of the categories that hold it. -/
theorem rank_le_of_find? (h : r.find? name = some e) {f : Entry} (hf : f ∈ r.entries)
    (hname : f.name = name) : e.category.rank ≤ f.category.rank := by
  obtain ⟨before, c, after, hall, hc, hbefore⟩ := List.findSome?_eq_some_iff.1 h
  obtain ⟨-, rfl, -⟩ := lookup_eq_some_iff.1 hc
  have order : Category.all.Pairwise fun c d => c.rank ≤ d.rank := by decide
  have hmem := f.category.mem_all
  rw [hall] at order hmem
  rcases List.mem_append.1 hmem with hf' | hf'
  · -- A category before the one that was found does not hold the name.
    have := lookup_eq_none_iff.1 (hbefore f.category hf') f hf rfl
    exact absurd hname this
  · rcases List.mem_cons.1 hf' with hf' | hf'
    · exact Nat.le_of_eq (congrArg Category.rank hf'.symm)
    · exact (List.pairwise_cons.1 (List.pairwise_append.1 order).2.1).1 f.category hf'

/-- No entry has the empty name. -/
theorem find?_empty : r.find? "" = none := by
  refine find?_eq_none_iff.2 fun e _ hname => e.name_ne_nil ?_
  rw [hname]
  rfl

/-- The full form is tried first, the short form only if no category holds the full form. -/
theorem classify_eq_or :
    r.classify raw = (r.find? (Name.full raw)).or (r.find? (Name.short raw)) := by
  have drop (forms : List String) :
      (forms.filter (· ≠ "")).findSome? r.find? = forms.findSome? r.find? := by
    induction forms with
    | nil => rfl
    | cons form forms ih =>
      by_cases h : form = ""
      · simp [h, find?_empty, ← ih]
      · simp [h, List.findSome?_cons, ← ih]
  rw [classify, drop, Name.forms]
  split
  · rename_i same
    cases hfull : r.find? (Name.full raw) <;> simp [same, hfull]
  · cases hfull : r.find? (Name.full raw) <;>
      cases hshort : r.find? (Name.short raw) <;> simp [hfull, hshort]

end

end CryptoAudit.Registry
