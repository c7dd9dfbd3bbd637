import CryptoAudit.Proofs.Classification.Canonical
import CryptoAudit.Proofs.Classification.Respelling

/-!
# Qualified names

A registered name, however it is spelled, may be followed by a dash and a qualifier. If the whole
text is registered, it is what the raw name denotes. If not, the qualifier is dropped and the name
before the dash decides, whatever characters the qualifier has, with one exception: a qualifier
that goes on in another line is not dropped, and then the raw name denotes nothing.

## Main results

* `Name.Respelling.shortForm_qualified`: the short form of a qualified name
* `Registry.classify_qualified`: what a qualified name denotes
* `Registry.classify_lineBreak`: a qualifier with a line break hides a weak algorithm
-/

namespace CryptoAudit

namespace Name.Respelling

variable {cs ds : List Char} (h : Respelling cs ds) (hcs : ∀ c ∈ cs, isCanonicalChar c = true)

include h hcs

/-- A canonical name that was respelled is itself the full form. -/
theorem fullForm_eq_of_canonical : fullForm ds = cs :=
  h.fullForm_eq.symm.trans (fullForm_canonical hcs)

/-- A canonical name that was respelled is still a word. -/
theorem isWordChar_of_mem_upperChars : ∀ c ∈ Text.upperChars ds, isWordChar c = true := by
  intro c hc
  by_cases hunderscore : c = '_'
  · rw [hunderscore]
    rfl
  · have hbare : c ∈ bare (Text.upperChars ds) := List.mem_filter.2 ⟨hc, by simpa using hunderscore⟩
    rw [← h.bare_upperChars, upperChars_canonical hcs] at hbare
    have hmem : c ∈ cs := (List.mem_filter.1 hbare).1
    exact (isCanonicalChar_cases (hcs c hmem)).1

/-- The qualifier of a respelled name is dropped exactly if it has no line break. -/
theorem shortForm_qualified (hne : cs ≠ []) (qualifier : List Char) :
    shortForm (ds ++ '-' :: qualifier) =
      if '\n' ∈ qualifier then fullForm (ds ++ '-' :: qualifier) else cs := by
  have hword := h.isWordChar_of_mem_upperChars hcs
  have hstrip : stripSeparators (Text.upperChars ds) = cs := h.fullForm_eq_of_canonical hcs
  have hfilled : Text.upperChars ds ≠ [] := by
    intro hnil
    rw [hnil] at hstrip
    exact hne hstrip.symm
  have hupper : Text.upperChars (ds ++ '-' :: qualifier) =
      Text.upperChars ds ++ '-' :: Text.upperChars qualifier := by
    rw [Text.upperChars_append, Text.upperChars_cons]
    rfl
  have hline : '\n' ∈ Text.upperChars qualifier ↔ '\n' ∈ qualifier :=
    Text.mem_upperChars_iff (by decide) qualifier
  rw [shortForm, fullForm, hupper, dropModeSuffix_word_dash hword hfilled]
  simp only [hline]
  split
  · rfl
  · exact hstrip

end Name.Respelling

namespace Registry

/-- A registered name in any spelling, followed by a dash and any text, denotes what the whole text
names if that is registered. If it is not, it denotes what the name alone does, unless there is a
line break in the text: then it denotes nothing. -/
theorem classify_qualified (r : Registry) {e : Entry} (he : e ∈ r.entries) {word : String}
    (hword : Name.Respelling e.name.toList word.toList) {raw : String} (text : String)
    (hraw : raw = word ++ "-" ++ text) :
    (r.Has (Name.full raw) →
        ∃ f, r.classify raw = some f ∧ r.Earliest f ∧ f.name = Name.full raw) ∧
      (¬r.Has (Name.full raw) → '\n' ∉ text.toList →
        r.classify raw = r.classify e.name ∧ ∃ f, r.classify raw = some f) ∧
      (¬r.Has (Name.full raw) → '\n' ∈ text.toList → r.classify raw = none) := by
  have hchars : raw.toList = word.toList ++ '-' :: text.toList := by
    rw [hraw, String.toList_append, String.toList_append, List.append_assoc]
    rfl
  have hshort := hword.shortForm_qualified e.isCanonicalChar_of_mem e.name_ne_nil text.toList
  rw [← hchars] at hshort
  refine ⟨?whole, ?name, ?lineBreak⟩
  case whole =>
    intro hfull
    rw [classify_of_has_full hfull]
    exact exists_find?_of_has hfull
  case name =>
    intro hfull hline
    have hname : Name.short raw = e.name := by
      rw [Name.short, hshort, if_neg hline, String.ofList_toList]
    obtain ⟨f, hf, -⟩ := exists_find?_of_has (has_name he)
    rw [classify_of_not_has_full hfull, hname]
    exact ⟨(classify_name he).symm, f, hf⟩
  case lineBreak =>
    intro hfull hline
    have hsame : Name.short raw = Name.full raw := by
      rw [Name.short, hshort, if_pos hline, Name.full]
    rw [classify_of_not_has_full hfull, hsame]
    exact find?_eq_none_iff_not_has.2 hfull

theorem md5_mem_builtin : md5 ∈ builtin.entries := by decide +kernel

/-- A qualifier may have dashes of its own and characters that are longer in upper case. -/
theorem classify_qualified_dashes :
    md5 ∈ builtin.entries ∧ Name.Respelling md5.name.toList "m_d5".toList ∧
      builtin.classify "m_d5-40-ß" = builtin.classify md5.name := by
  have respelled : Name.Respelling md5.name.toList "m_d5".toList := by
    change Name.Respelling ['M', 'D', '5'] ['m', '_', 'd', '5']
    exact .cons rfl (.insert (.cons rfl (.cons rfl .nil)))
  have hwhole : ¬builtin.Has (Name.full "m_d5-40-ß") := by
    unfold Has
    decide +kernel
  have hraw : "m_d5-40-ß" = "m_d5" ++ "-" ++ "40-ß" := rfl
  have hqualified := classify_qualified builtin md5_mem_builtin respelled "40-ß" hraw
  exact ⟨md5_mem_builtin, respelled, (hqualified.2.1 hwhole (by decide)).1⟩

/-- The weak algorithm `MD5` goes unnoticed if its qualifier starts with a line break. -/
theorem classify_lineBreak :
    md5 ∈ builtin.entries ∧ Name.Respelling md5.name.toList "md5".toList ∧
      builtin.classify md5.name = some md5 ∧ builtin.classify ("md5" ++ "-" ++ "\nCBC") = none := by
  have respelled : Name.Respelling md5.name.toList "md5".toList := by
    change Name.Respelling ['M', 'D', '5'] ['m', 'd', '5']
    exact .cons rfl (.cons rfl (.cons rfl .nil))
  exact ⟨md5_mem_builtin, respelled, by decide +kernel, by decide +kernel⟩

end Registry

end CryptoAudit
