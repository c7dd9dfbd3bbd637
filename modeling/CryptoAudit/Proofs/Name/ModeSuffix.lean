import CryptoAudit.Name.Forms

/-!
# Underscores and mode suffixes

An underscore may stand in a word and is dropped as a separator. So it does not matter to either
end of the pipeline, with one exception: before a dash at the very start it makes a word where
there was none. That word has no letters, and the short form becomes empty.

## Main definitions

* `bare`: a text without underscores
* `isQualified`: the leading word, which may be empty, is followed by a dash and a qualifier

## Main results

* `filter_takeWhile_of_imp`, `filter_dropWhile_of_imp`: filtering and leading runs commute
* `isQualified_bare`: underscores do not change whether a text is qualified
* `strip_dropModeSuffix_cases`: the short form of a text, told by the text without underscores
* `dropModeSuffix_of_no_dash`: a text without a dash has no mode suffix
* `dropModeSuffix_word_dash`: which qualifiers are dropped
-/

namespace CryptoAudit.Name

section Runs

variable {α : Type} {p q : α → Bool}

/-- Filtering a leading run, if only members of runs are filtered out. -/
theorem filter_takeWhile_of_imp (out : ∀ a, p a = false → q a = true) (as : List α) :
    (as.takeWhile q).filter p = (as.filter p).takeWhile q := by
  induction as with
  | nil => rfl
  | cons a as ih =>
    by_cases hq : q a = true
    · by_cases hp : p a = true <;> simp [hq, hp, ih]
    · cases hp : p a with
      | false => exact absurd (out a hp) hq
      | true => simp [hq, hp]

/-- Filtering what follows a leading run, if only members of runs are filtered out. -/
theorem filter_dropWhile_of_imp (out : ∀ a, p a = false → q a = true) (as : List α) :
    (as.dropWhile q).filter p = (as.filter p).dropWhile q := by
  induction as with
  | nil => rfl
  | cons a as ih =>
    by_cases hq : q a = true
    · by_cases hp : p a = true <;> simp [hq, hp, ih]
    · cases hp : p a with
      | false => exact absurd (out a hp) hq
      | true => simp [hq, hp]

end Runs

/-- The characters other than underscores. -/
def bare (cs : List Char) : List Char :=
  cs.filter (· ≠ '_')

theorem isWordChar_of_not_bare (c : Char) (h : decide (c ≠ '_') = false) : isWordChar c = true := by
  obtain rfl : c = '_' := by simpa using h
  rfl

theorem bare_append (cs ds : List Char) : bare (cs ++ ds) = bare cs ++ bare ds :=
  List.filter_append cs ds

theorem bare_takeWhile (cs : List Char) :
    bare (cs.takeWhile isWordChar) = (bare cs).takeWhile isWordChar :=
  filter_takeWhile_of_imp isWordChar_of_not_bare cs

theorem bare_dropWhile (cs : List Char) :
    bare (cs.dropWhile isWordChar) = (bare cs).dropWhile isWordChar :=
  filter_dropWhile_of_imp isWordChar_of_not_bare cs

/-- Underscores are separators. -/
theorem stripSeparators_bare (cs : List Char) : stripSeparators (bare cs) = stripSeparators cs := by
  rw [stripSeparators, bare, List.filter_filter]
  refine List.filter_congr fun c _ => ?_
  by_cases h : c = '_'
  · simp [h, isSeparator]
  · simp [h]

/-- The leading word, which may be empty, is followed by a dash and text on the same line. -/
def isQualified (cs : List Char) : Bool :=
  match cs.dropWhile isWordChar with
  | '-' :: qualifier => !qualifier.contains '\n'
  | _ => false

theorem dropModeSuffix_of_not_qualified {cs : List Char} (h : isQualified cs = false) :
    dropModeSuffix cs = cs := by
  unfold isQualified at h
  unfold dropModeSuffix
  split
  · rename_i qualifier hrest
    rw [hrest] at h
    simp_all
  · rfl

theorem dropModeSuffix_of_qualified {cs : List Char} (h : isQualified cs = true) :
    dropModeSuffix cs =
      if (cs.takeWhile isWordChar).isEmpty then cs else cs.takeWhile isWordChar := by
  unfold isQualified at h
  unfold dropModeSuffix
  split
  · rename_i qualifier hrest
    rw [hrest] at h
    simp_all
  · rename_i hrest
    split at h
    · rename_i qualifier hrest'
      exact absurd hrest' (hrest qualifier)
    · cases h

/-- Underscores do not change whether a text is qualified. -/
theorem isQualified_bare (cs : List Char) : isQualified (bare cs) = isQualified cs := by
  -- What follows the word starts with no underscore, so its first character stays first.
  have hbare := bare_dropWhile cs
  have hstart : ∀ c rest, cs.dropWhile isWordChar = c :: rest → isWordChar c = false := by
    intro c rest h
    have := List.head?_dropWhile_not isWordChar cs
    rw [h] at this
    simpa using this
  unfold isQualified
  cases hrest : cs.dropWhile isWordChar with
  | nil =>
    rw [hrest] at hbare
    rw [← hbare]
    rfl
  | cons c rest =>
    have hc : c ≠ '_' := by
      rintro rfl
      exact absurd (hstart _ _ hrest) (by decide)
    have hcons : bare (c :: rest) = c :: bare rest := by simp [bare, hc]
    rw [hrest, hcons] at hbare
    rw [← hbare]
    have hline : (bare rest).contains '\n' = rest.contains '\n' := by
      simp [bare, List.contains_eq_mem, List.mem_filter]
    by_cases hdash : c = '-'
    · subst hdash
      simp only [hline]
    · split
      · rename_i heq
        exact absurd (List.cons.inj heq).1 hdash
      · split
        · rename_i heq
          exact absurd (List.cons.inj heq).1 hdash
        · rfl

/-- The short form of a text by the same text without underscores: all that is left of it, if it
is not qualified; and else the letters of its word, or all that is left of it if there is no word
and so there are no letters. -/
theorem strip_dropModeSuffix_cases (cs : List Char) :
    (isQualified (bare cs) = false ∧
        stripSeparators (dropModeSuffix cs) = stripSeparators (bare cs)) ∨
      isQualified (bare cs) = true ∧
        (stripSeparators (dropModeSuffix cs) =
            stripSeparators ((bare cs).takeWhile isWordChar) ∨
          stripSeparators ((bare cs).takeWhile isWordChar) = [] ∧
            stripSeparators (dropModeSuffix cs) = stripSeparators (bare cs)) := by
  rw [isQualified_bare]
  cases h : isQualified cs with
  | false => exact .inl ⟨rfl, by rw [dropModeSuffix_of_not_qualified h, stripSeparators_bare]⟩
  | true =>
    refine .inr ⟨rfl, ?_⟩
    rw [dropModeSuffix_of_qualified h, ← bare_takeWhile, stripSeparators_bare]
    split
    · rename_i hempty
      rw [List.isEmpty_iff.1 hempty]
      exact .inr ⟨rfl, (stripSeparators_bare cs).symm⟩
    · exact .inl rfl

/-- A text without a dash has no mode suffix. -/
theorem dropModeSuffix_of_no_dash {cs : List Char} (h : '-' ∉ cs) : dropModeSuffix cs = cs := by
  rw [dropModeSuffix]
  split
  · rename_i qualifier hrest
    have hmem : '-' ∈ cs.dropWhile isWordChar := by
      rw [hrest]
      exact List.mem_cons_self
    exact absurd ((List.dropWhile_sublist _).mem hmem) h
  · rfl

/-- A word with a dash and a qualifier keeps only the word, but a line break in the qualifier keeps
all of it. -/
theorem dropModeSuffix_word_dash {word : List Char} (hword : ∀ c ∈ word, isWordChar c = true)
    (hne : word ≠ []) (qualifier : List Char) :
    dropModeSuffix (word ++ '-' :: qualifier) =
      if '\n' ∈ qualifier then word ++ '-' :: qualifier else word := by
  have hdash : isWordChar '-' = false := by decide
  have hrun : (word ++ '-' :: qualifier).takeWhile isWordChar = word := by
    rw [List.takeWhile_append_of_pos hword, List.takeWhile_cons_of_neg (by simp [hdash]),
      List.append_nil]
  have hrest : (word ++ '-' :: qualifier).dropWhile isWordChar = '-' :: qualifier := by
    rw [List.dropWhile_append_of_pos hword, List.dropWhile_cons_of_neg (by simp [hdash])]
  have hfilled : word.isEmpty = false := List.isEmpty_eq_false_iff.2 hne
  simp only [dropModeSuffix, hrun, hrest, hfilled, Bool.false_or, List.contains_iff_mem]

end CryptoAudit.Name
