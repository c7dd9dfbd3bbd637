import CryptoAudit.Proofs.Classification.Listed
import CryptoAudit.Proofs.Classification.Separated

/-!
# One more entry

An entry that is added to a registry can only take over raw names of which it is a form. It takes
over from another entry in two ways: from one of the same name in a later category, or, as the full
form, from one that was found by the short form. Every other raw name denotes what it denoted
before, wherever among the others the entry was inserted.

## Main definitions

* `Registry.Extends`: a registry has one entry more than another one

## Main results

* `Registry.Extends.find?_cases`: what is found under a name
* `Registry.Extends.classify_cases`: what a raw name denotes
* `Registry.classify_inserted`: what one inserted entry changes
-/

namespace CryptoAudit.Registry

/-- The second registry has the entries of the first one and the given entry. -/
def Extends (r : Registry) (e : Entry) (r' : Registry) : Prop :=
  ∀ f, f ∈ r'.entries ↔ f ∈ r.entries ∨ f = e

/-- A list with one entry more becomes a registry with one entry more. -/
theorem extends_of_ofEntries {before after : List Entry} {e : Entry} {r r' : Registry}
    (hr : ofEntries (before ++ after) = .ok r) (hr' : ofEntries (before ++ e :: after) = .ok r') :
    r.Extends e r' := by
  intro f
  rw [(holds_of_ofEntries hr).mem_entries_iff, (holds_of_ofEntries hr').mem_entries_iff]
  simp only [List.mem_append, List.mem_cons]
  tauto

namespace Extends

variable {r r' : Registry} {e : Entry}

/-- A registered name stays registered. -/
theorem has (h : r.Extends e r') {name : String} (hname : r.Has name) : r'.Has name := by
  obtain ⟨f, hf, rfl⟩ := hname
  exact ⟨f, (h f).2 (.inl hf), rfl⟩

/-- An earliest entry of the larger registry is an earliest one of the smaller if it is there. -/
theorem earliest (h : r.Extends e r') {f : Entry} (hf : f ∈ r.entries) (hfirst : r'.Earliest f) :
    r.Earliest f :=
  ⟨hf, fun g hg => hfirst.2 g ((h g).2 (.inl hg))⟩

/-- Under a name the same is found as before, or else the new entry, which then comes before
whatever was found. -/
theorem find?_cases (h : r.Extends e r') (name : String) :
    r'.find? name = r.find? name ∨
      r'.find? name = some e ∧ e.name = name ∧
        ∀ x, r.find? name = some x → x = e ∨ e.category.rank < x.category.rank := by
  cases hfound : r'.find? name with
  | none =>
    left
    have hnot : ¬r.Has name := fun hname => find?_eq_none_iff_not_has.1 hfound (h.has hname)
    exact (find?_eq_none_iff_not_has.2 hnot).symm
  | some f =>
    obtain ⟨hfirst, rfl⟩ := find?_eq_some_iff.1 hfound
    rcases (h f).1 hfirst.1 with hf | rfl
    · exact .inl (find?_eq_some_iff.2 ⟨h.earliest hf hfirst, rfl⟩).symm
    · refine .inr ⟨rfl, rfl, fun x hx => ?_⟩
      obtain ⟨hmem, hname⟩ := mem_of_find? hx
      exact hfirst.2 x ((h x).2 (.inl hmem)) hname

/-- A raw name denotes the same as before, or else the new entry. In the second case it denoted
nothing or the new entry, or an entry of the same name in a later category, or an entry with the
short form as its name while the new one has the full form. -/
theorem classify_cases (h : r.Extends e r') (raw : String) :
    r'.classify raw = r.classify raw ∨
      r'.classify raw = some e ∧ e.name ∈ Name.forms raw ∧
        ∀ x, r.classify raw = some x → x = e ∨
          e.name = x.name ∧ e.category.rank < x.category.rank ∨
          e.name = Name.full raw ∧ x.name = Name.short raw ∧ x.name ≠ Name.full raw := by
  by_cases hfull : r.Has (Name.full raw)
  · rw [classify_of_has_full hfull, classify_of_has_full (h.has hfull)]
    refine (h.find?_cases (Name.full raw)).imp_right ?_
    rintro ⟨hfound, hname, hbefore⟩
    refine ⟨hfound, Name.mem_forms_iff.2 (.inl hname), fun x hx => ?_⟩
    exact (hbefore x hx).imp_right fun hrank => .inl ⟨hname.trans (mem_of_find? hx).2.symm, hrank⟩
  · rw [classify_of_not_has_full hfull]
    by_cases hfull' : r'.Has (Name.full raw)
    · -- Only the new entry can have brought the full form.
      rw [classify_of_has_full hfull']
      have hnone : r.find? (Name.full raw) = none := find?_eq_none_iff_not_has.2 hfull
      rcases h.find?_cases (Name.full raw) with hsame | ⟨hfound, hname, -⟩
      · exact absurd hfull' (find?_eq_none_iff_not_has.1 (hsame.trans hnone))
      · refine .inr ⟨hfound, Name.mem_forms_iff.2 (.inl hname), fun x hx => .inr (.inr ?_)⟩
        obtain ⟨hmem, hshort⟩ := mem_of_find? hx
        exact ⟨hname, hshort, fun hx => hfull ⟨x, hmem, hx⟩⟩
    · rw [classify_of_not_has_full hfull']
      refine (h.find?_cases (Name.short raw)).imp_right ?_
      rintro ⟨hfound, hname, hbefore⟩
      refine ⟨hfound, Name.mem_forms_iff.2 (.inr hname), fun x hx => ?_⟩
      exact (hbefore x hx).imp_right fun hrank => .inl ⟨hname.trans (mem_of_find? hx).2.symm, hrank⟩

/-- A raw name that denoted something still does. -/
theorem isSome_classify (h : r.Extends e r') {raw : String}
    (hraw : (r.classify raw).isSome = true) : (r'.classify raw).isSome = true := by
  rcases h.classify_cases raw with hsame | ⟨hnew, -⟩
  · rw [hsame]
    exact hraw
  · rw [hnew, Option.isSome_some]

end Extends

/-- An entry inserted anywhere in a list that is still accepted changes little: a raw name that
denoted something still does, and it denotes the same as before or exactly the new entry, whose
name is then one of its forms. If that entry takes the place of another one, it has the same name
and an earlier category, or it has the full form as its name and the other one only the short. -/
theorem classify_inserted {before after : List Entry} {e : Entry} {r r' : Registry}
    (hr : ofEntries (before ++ after) = .ok r) (hr' : ofEntries (before ++ e :: after) = .ok r')
    (raw : String) :
    ((r.classify raw).isSome = true → (r'.classify raw).isSome = true) ∧
      (r'.classify raw = r.classify raw ∨ r'.classify raw = some e ∧ e.name ∈ Name.forms raw) ∧
      ∀ x, r.classify raw = some x → r'.classify raw = some e → x ≠ e →
        e.name = x.name ∧ e.category.rank < x.category.rank ∨
          e.name = Name.full raw ∧ x.name = Name.short raw ∧ x.name ≠ Name.full raw := by
  have hextends := extends_of_ofEntries hr hr'
  have hcases := hextends.classify_cases raw
  refine ⟨hextends.isSome_classify, hcases.imp_right fun h => ⟨h.1, h.2.1⟩, ?_⟩
  intro x hx hnew hne
  rcases hcases with hsame | ⟨-, -, htaken⟩
  · exact absurd (Option.some.inj ((hx.symm.trans hsame.symm).trans hnew)) hne
  · exact (htaken x hx).resolve_left hne

/-- A weak hash algorithm takes over the name of a cipher, and a longer name takes over a qualified
name from a shorter one. -/
theorem classify_inserted_takeover :
    ∃ r r₁ r₂, ofEntries [aes] = .ok r ∧ ofEntries [aes, weakAes] = .ok r₁ ∧
      ofEntries [aes256, aes] = .ok r₂ ∧ r.classify "aes-256" = some aes ∧
      r₁.classify "aes-256" = some weakAes ∧ r₂.classify "aes-256" = some aes256 ∧
      weakAes.category.rank < aes.category.rank ∧ aes256.name = Name.full "aes-256" := by
  let r : Registry := empty.add aes rfl
  let r₁ : Registry := r.add weakAes (by decide +kernel)
  let r₂ : Registry := (empty.add aes256 rfl).add aes (by decide +kernel)
  have hr : ofEntries ([aes] ++ []) = .ok r := rfl
  have hr' : ofEntries ([] ++ [aes]) = .ok r := rfl
  have hr₁ : ofEntries ([aes] ++ weakAes :: []) = .ok r₁ := rfl
  have hr₂ : ofEntries ([] ++ aes256 :: [aes]) = .ok r₂ := rfl
  have hold : r.classify "aes-256" = some aes := by decide +kernel
  have hnew₁ : r₁.classify "aes-256" = some weakAes := by decide +kernel
  have hnew₂ : r₂.classify "aes-256" = some aes256 := by decide +kernel
  refine ⟨r, r₁, r₂, hr, hr₁, hr₂, hold, hnew₁, hnew₂, ?earlier, ?longer⟩
  case earlier =>
    rcases (classify_inserted hr hr₁ "aes-256").2.2 aes hold hnew₁ (by decide) with
      ⟨-, hrank⟩ | ⟨hfull, -⟩
    · exact hrank
    · exact absurd hfull (by decide +kernel)
  case longer =>
    rcases (classify_inserted hr' hr₂ "aes-256").2.2 aes hold hnew₂ (by decide) with
      ⟨hname, -⟩ | ⟨hfull, -⟩
    · exact absurd hname (by decide +kernel)
    · exact hfull

end CryptoAudit.Registry
