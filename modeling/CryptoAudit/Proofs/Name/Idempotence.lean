import CryptoAudit.Proofs.Classification.Canonical
import CryptoAudit.Proofs.Name.ModeSuffix
import CryptoAudit.Proofs.Text.UpperCase

/-!
# Forms of forms

A form is in upper case and has no separators. So nothing is upper-cased or dropped in it once
more: without a dash there is no mode suffix, and the form is the only form of itself.

## Main definitions

* `IsReduced`: a text in upper case without separators

## Main results

* `forms_of_isReduced`: a reduced text is its only form
* `forms_idempotent`: the forms of a form, and those of a canonical name
-/

namespace CryptoAudit.Name

/-- Every character is in upper case and no separator. -/
def IsReduced (cs : List Char) : Prop :=
  ∀ c ∈ cs, isSeparator c = false ∧ Text.upperChar c = [c]

/-- A reduced text is its only form. -/
theorem forms_of_isReduced {s : String} (h : IsReduced s.toList) : forms s = [s] := by
  have hupper : Text.upperChars s.toList = s.toList :=
    Text.upperChars_eq_self fun c hc => (h c hc).2
  have hstrip : stripSeparators s.toList = s.toList :=
    List.filter_eq_self.2 fun c hc => by rw [(h c hc).1]; rfl
  have hdash : '-' ∉ s.toList := fun hmem => absurd (h _ hmem).1 (by decide)
  have hfull : full s = s := by
    rw [full, fullForm, hupper, hstrip, String.ofList_toList]
  have hshort : short s = s := by
    rw [short, shortForm, hupper, dropModeSuffix_of_no_dash hdash, hstrip, String.ofList_toList]
  rw [forms, if_pos (hshort.trans hfull.symm), hfull]

/-- What is left of a part of an upper-case text without separators is reduced. -/
theorem isReduced_stripSeparators {cs raw : List Char} (h : cs ⊆ Text.upperChars raw) :
    IsReduced (stripSeparators cs) := by
  intro c hc
  have hmem : c ∈ cs := (List.mem_filter.1 hc).1
  exact ⟨stripSeparators_noSeparator cs c hc, Text.upperChar_of_mem_upperChars (h hmem)⟩

/-- Both forms are reduced. -/
theorem isReduced_of_mem_forms {raw form : String} (h : form ∈ forms raw) :
    IsReduced form.toList := by
  have hfull : IsReduced (full raw).toList := by
    rw [full, String.toList_ofList]
    exact isReduced_stripSeparators (List.Subset.refl _)
  have hshort : IsReduced (short raw).toList := by
    rw [short, String.toList_ofList]
    have hprefix := dropModeSuffix_prefix (Text.upperChars raw.toList)
    exact isReduced_stripSeparators hprefix.subset
  rw [forms] at h
  split at h
  · rw [List.mem_singleton.1 h]
    exact hfull
  · rcases List.mem_cons.1 h with rfl | h
    · exact hfull
    · rw [List.mem_singleton.1 h]
      exact hshort

theorem isReduced_name (e : Entry) : IsReduced e.name.toList := by
  intro c hc
  obtain ⟨-, hseparator, hupper⟩ := isCanonicalChar_cases (e.isCanonicalChar_of_mem c hc)
  exact ⟨hseparator, hupper⟩

/-- Every form of a name is its own only form, so a name that is written as one of its forms gets
no form that it did not have. Every name that an entry can have is its own only form, too. -/
theorem forms_idempotent (raw : String) :
    (∀ form ∈ forms raw, forms form = [form] ∧ forms form ⊆ forms raw) ∧
      ∀ e : Entry, forms e.name = [e.name] := by
  refine ⟨?form, fun e => forms_of_isReduced (isReduced_name e)⟩
  case form =>
    intro form hform
    have hsame : forms form = [form] := forms_of_isReduced (isReduced_of_mem_forms hform)
    refine ⟨hsame, fun again hagain => ?_⟩
    rw [hsame, List.mem_singleton] at hagain
    exact hagain ▸ hform

/-- A name in which upper-casing makes two characters of one, before the dash and after it. -/
theorem forms_idempotent_expanded :
    "FIXSS\u02bcN" ∈ forms "ﬁx_ß-ŉ" ∧ forms "FIXSS\u02bcN" = ["FIXSS\u02bcN"] := by
  have hform : "FIXSS\u02bcN" ∈ forms "ﬁx_ß-ŉ" := by decide +kernel
  exact ⟨hform, ((forms_idempotent "ﬁx_ß-ŉ").1 _ hform).1⟩

end CryptoAudit.Name
