import CryptoAudit.Proofs.Classification.Priority
import CryptoAudit.Proofs.Text.Case

/-!
# Canonical names as raw names

A canonical name is a word of capitals and digits, so nothing is upper-cased or dropped in it: it
is its own full form. A raw name whose full form is the name of an entry therefore denotes what
that name denotes, whatever its short form is.

## Main results

* `Name.fullForm_canonical`: canonical names are their own full forms
* `Registry.classify_of_full_eq`: a raw name with a registered full form
-/

namespace CryptoAudit

/-- Capitals and digits are word characters, are no separators and are in upper case. -/
theorem isCanonicalChar_cases {c : Char} (h : isCanonicalChar c = true) :
    Name.isWordChar c = true ∧ Name.isSeparator c = false ∧ Text.upperChar c = [c] := by
  have hranges := h
  simp only [isCanonicalChar, Bool.or_eq_true, Bool.and_eq_true, decide_eq_true_eq] at hranges
  have hpoint : 65 ≤ c.toNat ∧ c.toNat ≤ 90 ∨ 48 ≤ c.toNat ∧ c.toNat ≤ 57 := hranges
  refine ⟨?word, ?separator, ?upper⟩
  case word =>
    rcases hranges with hcapital | hdigit
    · simp [Name.isWordChar, hcapital]
    · simp [Name.isWordChar, hdigit]
  case separator =>
    rw [Name.isSeparator, Bool.eq_false_iff]
    intro hseparator
    simp only [Bool.or_eq_true, beq_iff_eq] at hseparator
    rcases hseparator with (rfl | rfl) | rfl <;> cases h
  case upper =>
    have hascii : c.toNat < 128 := by omega
    have hletter : ¬97 ≤ c.toNat := by omega
    simp [Text.upperChar, hascii, hletter]

theorem Entry.isCanonicalChar_of_mem (e : Entry) :
    ∀ c ∈ e.name.toList, isCanonicalChar c = true :=
  List.all_eq_true.1 e.canonical.2

namespace Name

variable {cs : List Char} (h : ∀ c ∈ cs, isCanonicalChar c = true)

include h

theorem upperChars_canonical : Text.upperChars cs = cs :=
  Text.upperChars_eq_self fun c hc => (isCanonicalChar_cases (h c hc)).2.2

theorem stripSeparators_canonical : stripSeparators cs = cs := by
  refine List.filter_eq_self.2 fun c hc => ?_
  rw [(isCanonicalChar_cases (h c hc)).2.1]
  rfl

/-- Nothing is upper-cased or dropped in a canonical name. -/
theorem fullForm_canonical : fullForm cs = cs := by
  rw [fullForm, upperChars_canonical h, stripSeparators_canonical h]

end Name

namespace Registry

variable {r : Registry} {e : Entry}

/-- The name of an entry is registered. -/
theorem has_name (he : e ∈ r.entries) : r.Has e.name :=
  ⟨e, he, rfl⟩

/-- A raw name whose full form is the name of an entry denotes what is found under that name. -/
theorem classify_of_full_eq (he : e ∈ r.entries) {raw : String}
    (hfull : Name.fullForm raw.toList = e.name.toList) : r.classify raw = r.find? e.name := by
  have hname : Name.full raw = e.name := by
    rw [Name.full, hfull, String.ofList_toList]
  have hhas : r.Has (Name.full raw) := hname.symm ▸ has_name he
  rw [classify_of_has_full hhas, hname]

/-- The name of an entry denotes what is found under it. -/
theorem classify_name (he : e ∈ r.entries) : r.classify e.name = r.find? e.name :=
  classify_of_full_eq he (Name.fullForm_canonical e.isCanonicalChar_of_mem)

/-- Under a registered name an entry is found, and it is the first of its name. -/
theorem exists_find?_of_has {name : String} (h : r.Has name) :
    ∃ f, r.find? name = some f ∧ r.Earliest f ∧ f.name = name := by
  cases hf : r.find? name with
  | none => exact absurd h (find?_eq_none_iff_not_has.1 hf)
  | some f => exact ⟨f, rfl, find?_eq_some_iff.1 hf⟩

end Registry

end CryptoAudit
