import CryptoAudit.Proofs.Name.ModeSuffix
import CryptoAudit.Proofs.Text.Case
import CryptoAudit.Taxonomy.Entry

/-!
# The forms of a name

A name has a short form of its own exactly if, in upper case, it is a word with a dash and a
qualifier on the same line, and the qualifier has something besides separators. The short form
then consists of the letters and digits of the word. In every other case the full form is all.

## Main definitions

* `Qualified`: a text is a word with a dash and a qualifier
* `HasContent`: something in a text is no separator

## Main results

* `exists_qualified_or_eq`: a mode suffix is dropped from qualified texts only
* `Qualified.isCanonicalChar_of_mem`: the letters and digits of a word in upper case
* `forms_cases`: the two shapes of the list of forms
* `forms_shape`: which names have which forms
-/

namespace CryptoAudit.Name

/-- A text is a word, a dash and a qualifier that stays on the same line. -/
structure Qualified (cs word qualifier : List Char) : Prop where
  eq_append : cs = word ++ '-' :: qualifier
  word_ne_nil : word ≠ []
  isWordChar_of_mem : ∀ c ∈ word, isWordChar c = true
  sameLine : '\n' ∉ qualifier

/-- Something in a text is no separator. -/
def HasContent (cs : List Char) : Prop :=
  ∃ c ∈ cs, isSeparator c = false

theorem stripSeparators_eq_nil_iff {cs : List Char} :
    stripSeparators cs = [] ↔ ¬HasContent cs := by
  simp [stripSeparators, HasContent]

/-- The only separators of a word are its underscores. -/
theorem stripSeparators_word {word : List Char} (h : ∀ c ∈ word, isWordChar c = true) :
    stripSeparators word = bare word := by
  refine List.filter_congr fun c hc => ?_
  have hdash : c ≠ '-' := by
    rintro rfl
    exact absurd (h _ hc) (by decide)
  have hspace : c ≠ ' ' := by
    rintro rfl
    exact absurd (h _ hc) (by decide)
  by_cases hunderscore : c = '_' <;> simp [isSeparator, hdash, hspace, hunderscore]

/-- A mode suffix is dropped from qualified texts only. -/
theorem exists_qualified_or_eq (cs : List Char) :
    (∃ word qualifier, Qualified cs word qualifier) ∨ dropModeSuffix cs = cs := by
  have happend := List.takeWhile_append_dropWhile (p := isWordChar) (l := cs)
  cases hqualified : isQualified cs with
  | false => exact .inr (dropModeSuffix_of_not_qualified hqualified)
  | true =>
    by_cases hword : cs.takeWhile isWordChar = []
    · rw [dropModeSuffix_of_qualified hqualified, hword]
      exact .inr (if_pos rfl)
    · refine .inl ⟨cs.takeWhile isWordChar, ?_⟩
      unfold isQualified at hqualified
      split at hqualified
      · rename_i qualifier hrest
        rw [hrest] at happend
        refine ⟨qualifier, happend.symm, hword, ?_, by simpa using hqualified⟩
        exact List.all_eq_true.1 List.all_takeWhile
      · cases hqualified

namespace Qualified

variable {cs word qualifier : List Char} (h : Qualified cs word qualifier)

include h

theorem dropModeSuffix_eq : dropModeSuffix cs = word := by
  rw [h.eq_append, dropModeSuffix_word_dash h.isWordChar_of_mem h.word_ne_nil, if_neg h.sameLine]

/-- A text is qualified in one way only: its word ends at the first dash. -/
theorem word_unique {word' qualifier' : List Char} (h' : Qualified cs word' qualifier') :
    word = word' := by
  rw [← h.dropModeSuffix_eq, h'.dropModeSuffix_eq]

/-- Without separators a qualified text is that of its word with that of its qualifier. -/
theorem stripSeparators_eq : stripSeparators cs = bare word ++ stripSeparators qualifier := by
  rw [h.eq_append, stripSeparators_append, stripSeparators_word h.isWordChar_of_mem]
  rfl

/-- In an upper-case text the word has capitals, digits and underscores only. -/
theorem isCanonicalChar_of_mem {raw : List Char} (hraw : cs = Text.upperChars raw) :
    ∀ c ∈ bare word, isCanonicalChar c = true := by
  intro c hc
  obtain ⟨hword, hunderscore⟩ := List.mem_filter.1 hc
  have hchar := h.isWordChar_of_mem c hword
  have hmem : c ∈ Text.upperChars raw := by
    rw [← hraw, h.eq_append]
    exact List.mem_append_left _ hword
  have hcase := Text.not_isSmallPoint_of_mem_upperChars hmem
  have hsmall : ¬('a' ≤ c ∧ c ≤ 'z') := hcase
  simp only [isWordChar, Bool.or_eq_true, Bool.and_eq_true, decide_eq_true_eq, beq_iff_eq] at hchar
  simp only [isCanonicalChar, Bool.or_eq_true, Bool.and_eq_true, decide_eq_true_eq]
  rcases hchar with ((hcapital | hletter) | hdigit) | rfl
  · exact .inl hcapital
  · exact absurd hletter hsmall
  · exact .inr hdigit
  · exact absurd rfl (of_decide_eq_true hunderscore)

end Qualified

/-- A name has two forms if it is qualified and the qualifier has content, and else one. -/
theorem forms_cases (raw : String) :
    (∃ word qualifier, Qualified (Text.upperChars raw.toList) word qualifier ∧
        HasContent qualifier ∧ forms raw = [full raw, String.ofList (bare word)]) ∨
      (¬∃ word qualifier, Qualified (Text.upperChars raw.toList) word qualifier ∧
        HasContent qualifier) ∧ forms raw = [full raw] := by
  have hforms : ∀ word qualifier, Qualified (Text.upperChars raw.toList) word qualifier →
      short raw = String.ofList (bare word) ∧ (short raw = full raw ↔ ¬HasContent qualifier) := by
    intro word qualifier h
    have hshort : shortForm raw.toList = bare word := by
      rw [shortForm, h.dropModeSuffix_eq, stripSeparators_word h.isWordChar_of_mem]
    have hfull : fullForm raw.toList = bare word ++ stripSeparators qualifier :=
      h.stripSeparators_eq
    refine ⟨by rw [short, hshort], ?_⟩
    rw [short, full, hshort, hfull, String.ofList_inj, List.self_eq_append_right,
      stripSeparators_eq_nil_iff]
  by_cases h : ∃ word qualifier, Qualified (Text.upperChars raw.toList) word qualifier ∧
      HasContent qualifier
  · obtain ⟨word, qualifier, hqualified, hcontent⟩ := h
    obtain ⟨hshort, hsame⟩ := hforms word qualifier hqualified
    refine .inl ⟨word, qualifier, hqualified, hcontent, ?_⟩
    rw [forms, if_neg fun heq => hsame.1 heq hcontent, hshort]
  · refine .inr ⟨h, if_pos ?_⟩
    rcases exists_qualified_or_eq (Text.upperChars raw.toList) with
      ⟨word, qualifier, hqualified⟩ | hwhole
    · refine (hforms word qualifier hqualified).2.2 fun hcontent => ?_
      exact h ⟨word, qualifier, hqualified, hcontent⟩
    · rw [short, full, shortForm, fullForm, hwhole]

/-- A name has two forms exactly if it is, in upper case, a word with a dash and a qualifier on the
same line that has something besides separators; and else one. The first form is the name in upper
case without separators. The second is the word without underscores: it has capitals and digits
only, and the first form starts with it and goes on. No form has separators. -/
theorem forms_shape (raw : String) :
    ((forms raw).length = 2 ↔ ∃ word qualifier,
        Qualified (Text.upperChars raw.toList) word qualifier ∧ HasContent qualifier) ∧
      ((forms raw).length ≠ 2 →
        forms raw = [String.ofList (stripSeparators (Text.upperChars raw.toList))]) ∧
      (∀ word qualifier, Qualified (Text.upperChars raw.toList) word qualifier →
        HasContent qualifier →
        forms raw = [String.ofList (stripSeparators (Text.upperChars raw.toList)),
          String.ofList (bare word)] ∧
        (∀ c ∈ bare word, isCanonicalChar c = true) ∧
        bare word <+: stripSeparators (Text.upperChars raw.toList) ∧
        bare word ≠ stripSeparators (Text.upperChars raw.toList)) ∧
      ∀ form ∈ forms raw, ∀ c ∈ form.toList, isSeparator c = false := by
  refine ⟨?two, ?one, ?second, ?clean⟩
  case two =>
    rcases forms_cases raw with ⟨word, qualifier, hqualified, hcontent, hforms⟩ | ⟨hnone, hforms⟩
    · simp only [hforms, List.length_cons, List.length_nil, true_iff]
      exact ⟨word, qualifier, hqualified, hcontent⟩
    · simpa [hforms] using hnone
  case one =>
    intro hlength
    rcases forms_cases raw with ⟨word, qualifier, -, -, hforms⟩ | ⟨-, hforms⟩
    · rw [hforms] at hlength
      exact absurd rfl hlength
    · exact hforms
  case second =>
    intro word qualifier hqualified hcontent
    refine ⟨?_, hqualified.isCanonicalChar_of_mem rfl, ?_, ?_⟩
    · rcases forms_cases raw with ⟨word', qualifier', hqualified', -, hforms⟩ | ⟨hnone, -⟩
      · rw [hforms, hqualified.word_unique hqualified', full, fullForm]
      · exact absurd ⟨word, qualifier, hqualified, hcontent⟩ hnone
    · rw [hqualified.stripSeparators_eq]
      exact List.prefix_append _ _
    · rw [hqualified.stripSeparators_eq, ne_eq, List.self_eq_append_right]
      exact fun hnil => stripSeparators_eq_nil_iff.1 hnil hcontent
  case clean =>
    intro form hform c hc
    rw [forms] at hform
    split at hform
    · rw [List.mem_singleton.1 hform, full, String.toList_ofList] at hc
      exact fullForm_noSeparator _ c hc
    · simp only [List.mem_cons, List.not_mem_nil, or_false] at hform
      rcases hform with rfl | rfl
      · rw [full, String.toList_ofList] at hc
        exact fullForm_noSeparator _ c hc
      · rw [short, String.toList_ofList] at hc
        exact stripSeparators_noSeparator _ c hc

/-- The second form may be empty, and upper-casing may make a character longer. -/
example : forms "_-ß" = ["SS", ""] := by decide +kernel

end CryptoAudit.Name
