import CryptoAudit.Classify
import CryptoAudit.Proofs.Taxonomy.Insertion

/-!
# Which entry a raw name denotes

Two searches are nested: the full form of the raw name in every category, then the short form in
every category. So the full form wins over the short one wherever each of them is registered, and
only among entries of one name does the order of the categories decide.

## Main definitions

* `Registry.Has`: some category holds a name
* `Registry.Earliest`: an entry stands before all others of its name

## Main results

* `Registry.classify_eq_none_iff`: nothing is denoted exactly if neither form is registered
* `Registry.earliest_of_classify`: the denoted entry comes first under its name
* `Registry.classify_priority`: soundness, completeness and priority together
-/

namespace CryptoAudit.Registry

/-- Some category of the registry holds the name. -/
def Has (r : Registry) (name : String) : Prop :=
  ∃ e ∈ r.entries, e.name = name

/-- An entry of the registry whose category is searched before that of any other entry with its
name. -/
def Earliest (r : Registry) (e : Entry) : Prop :=
  e ∈ r.entries ∧ ∀ f ∈ r.entries, f.name = e.name → f = e ∨ e.category.rank < f.category.rank

variable {r : Registry} {name raw : String} {e : Entry}

theorem find?_eq_none_iff_not_has : r.find? name = none ↔ ¬r.Has name := by
  rw [find?_eq_none_iff]
  simp [Has]

/-- Two entries of a registry that clash are the same entry. -/
theorem eq_of_clash {f : Entry} (he : e ∈ r.entries) (hf : f ∈ r.entries) (h : Clash e f) :
    e = f := by
  have hfound : r.lookup f.category f.name = some e := lookup_eq_some_iff.2 ⟨he, h.1, h.2⟩
  rw [lookup_eq_some_iff.2 ⟨hf, rfl, rfl⟩] at hfound
  exact (Option.some.inj hfound).symm

theorem earliest_of_find? (h : r.find? name = some e) : r.Earliest e := by
  obtain ⟨hmem, rfl⟩ := mem_of_find? h
  refine ⟨hmem, fun f hf hname => ?_⟩
  rcases Nat.lt_or_eq_of_le (rank_le_of_find? h hf hname) with hlt | heq
  · exact .inr hlt
  · exact .inl (eq_of_clash hf hmem ⟨Category.rank_injective heq.symm, hname⟩)

/-- Only the first entry with a name is found under it. -/
theorem find?_eq_some_iff : r.find? name = some e ↔ r.Earliest e ∧ e.name = name := by
  constructor
  · exact fun h => ⟨earliest_of_find? h, (mem_of_find? h).2⟩
  · rintro ⟨⟨hmem, hfirst⟩, rfl⟩
    cases hg : r.find? e.name with
    | none => exact absurd rfl (find?_eq_none_iff.1 hg e hmem)
    | some g =>
      obtain ⟨hgmem, hgname⟩ := mem_of_find? hg
      rcases hfirst g hgmem hgname with rfl | hlt
      · rfl
      · exact absurd (rank_le_of_find? hg hmem rfl) (Nat.not_le_of_lt hlt)

theorem classify_eq_none_iff :
    r.classify raw = none ↔ ¬r.Has (Name.full raw) ∧ ¬r.Has (Name.short raw) := by
  rw [classify_eq_or, Option.or_eq_none_iff, find?_eq_none_iff_not_has, find?_eq_none_iff_not_has]

/-- A registered full form decides. -/
theorem classify_of_has_full (h : r.Has (Name.full raw)) :
    r.classify raw = r.find? (Name.full raw) := by
  cases hfull : r.find? (Name.full raw) with
  | none => exact absurd h (find?_eq_none_iff_not_has.1 hfull)
  | some e => rw [classify_eq_or, hfull, Option.some_or]

/-- The short form decides if the full form is not registered. -/
theorem classify_of_not_has_full (h : ¬r.Has (Name.full raw)) :
    r.classify raw = r.find? (Name.short raw) := by
  rw [classify_eq_or, find?_eq_none_iff_not_has.2 h, Option.none_or]

theorem earliest_of_classify (h : r.classify raw = some e) : r.Earliest e := by
  by_cases hfull : r.Has (Name.full raw)
  · exact earliest_of_find? (classify_of_has_full hfull ▸ h)
  · exact earliest_of_find? (classify_of_not_has_full hfull ▸ h)

/-- A name of separators has empty forms, and no entry has the empty name. -/
theorem classify_separators (h : ∀ c ∈ raw.toList, Name.isSeparator c = true) :
    r.classify raw = none := by
  have hfull : Name.fullForm raw.toList = [] := Name.fullForm_eq_nil_of_separators h
  have hshort : Name.shortForm raw.toList = [] :=
    List.prefix_nil.1 (hfull ▸ Name.shortForm_prefix raw.toList)
  have nothing : r.find? (String.ofList []) = none := find?_empty
  rw [classify_eq_or, Name.full, Name.short, hfull, hshort, nothing, Option.none_or]

/-- A raw name denotes nothing exactly if no category holds its full form or its short form. Else
it denotes an entry that the registry was built from: one with the full form as its name if any
category holds that, or with the short form if none does, and among the entries of that name the
one whose category is searched first. A name of separators never denotes anything. -/
theorem classify_priority {es : List Entry} {r : Registry} (built : ofEntries es = .ok r)
    (raw : String) :
    (r.classify raw = none ↔
        ∀ e ∈ r.entries, e.name ≠ Name.full raw ∧ e.name ≠ Name.short raw) ∧
      (∀ e, r.classify raw = some e →
        e ∈ r.entries ∧ e ∈ es ∧
          ((∃ f ∈ r.entries, f.name = Name.full raw) → e.name = Name.full raw) ∧
          (e.name ≠ Name.full raw →
            e.name = Name.short raw ∧ ∀ f ∈ r.entries, f.name ≠ Name.full raw) ∧
          ∀ f ∈ r.entries, f.name = e.name → f = e ∨ e.category.rank < f.category.rank) ∧
      ((∀ c ∈ raw.toList, c = '-' ∨ c = '_' ∨ c = ' ') → r.classify raw = none) := by
  refine ⟨?none, ?some, ?separators⟩
  case none =>
    rw [classify_eq_none_iff]
    simp only [Has, not_exists, not_and, ne_eq, ← forall_and]
  case some =>
    intro e he
    have hfirst := earliest_of_classify he
    have hes := (holds_of_ofEntries built).mem_entries_iff.1 hfirst.1
    by_cases hfull : r.Has (Name.full raw)
    · have hname := (mem_of_find? (classify_of_has_full hfull ▸ he)).2
      exact ⟨hfirst.1, hes, fun _ => hname, fun hne => absurd hname hne, hfirst.2⟩
    · have hname := (mem_of_find? (classify_of_not_has_full hfull ▸ he)).2
      refine ⟨hfirst.1, hes, fun h => absurd h hfull, fun _ => ⟨hname, ?_⟩, hfirst.2⟩
      exact fun f hf hfname => hfull ⟨f, hf, hfname⟩
  case separators =>
    intro h
    refine classify_separators fun c hc => ?_
    rcases h c hc with rfl | rfl | rfl <;> rfl

/-- The built-in registry knows no `AES256CBC`, so the qualified name denotes `AES`. -/
theorem classify_priority_qualified :
    ofEntries builtinEntries = .ok builtin ∧
      ∃ e ∈ builtin.entries, builtin.classify "Aes-256-CBC" = some e ∧ e.name = "AES" := by
  have known : (builtin.classify "Aes-256-CBC").isSome = true := by decide +kernel
  have full : Name.full "Aes-256-CBC" = "AES256CBC" := by decide +kernel
  have short : Name.short "Aes-256-CBC" = "AES" := by decide +kernel
  have unknown : ∀ e ∈ builtin.entries, e.name ≠ "AES256CBC" := by decide +kernel
  obtain ⟨e, he⟩ := Option.isSome_iff_exists.1 known
  obtain ⟨hmem, -, -, hshort, -⟩ :=
    (classify_priority ofEntries_builtin "Aes-256-CBC").2.1 e he
  rw [full, short] at hshort
  exact ⟨ofEntries_builtin, e, hmem, he, (hshort (unknown e hmem)).1⟩

end CryptoAudit.Registry
