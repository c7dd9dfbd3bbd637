import CryptoAudit.Proofs.Name.Shape
import CryptoAudit.Proofs.Text.Pattern

/-!
# Mode suffixes as a pattern

A mode suffix is described by a pattern: a word, which is kept, and after it nothing, or a dash and
any text on the same line. To match a whole text by backtracking is the same as to read its
longest word once, from left to right, and to look at what follows. For a shorter word would have
to be followed by a word character, which is no dash, so no text is matched in two ways.

## Main definitions

* `suffixPattern`: the pattern
* `IsSuffix`: what may follow the word
* `LongestStart`: the longest start of a text with characters of a class

## Main results

* `matches_suffixPattern_iff`: the texts of the pattern
* `kept_of_matches`: a text is matched in one way at most
* `dropModeSuffix_pattern`: matching and scanning agree on every text
-/

namespace CryptoAudit.Name

open Text (Pattern)

/-- A word, which is kept, and after it nothing, or a dash and any text on the same line. -/
def suffixPattern : Pattern :=
  .seq (.group (.run 1 isWordChar)) (.optional (.seq (.one (· == '-')) (.run 0 (· != '\n'))))

/-- What may follow the word: nothing, or a dash and text on the same line. -/
def IsSuffix (rest : List Char) : Prop :=
  rest = [] ∨ ∃ qualifier, rest = '-' :: qualifier ∧ '\n' ∉ qualifier

/-- The longest start of a text that has characters of a class only, with what follows it. -/
structure LongestStart (p : Char → Bool) (cs start rest : List Char) : Prop where
  eq_append : cs = start ++ rest
  all : ∀ c ∈ start, p c = true
  longest : ∀ other, other <+: cs → (∀ c ∈ other, p c = true) → other.length ≤ start.length

theorem longestStart_takeWhile (p : Char → Bool) (cs : List Char) :
    LongestStart p cs (cs.takeWhile p) (cs.dropWhile p) where
  eq_append := List.takeWhile_append_dropWhile.symm
  all := List.all_eq_true.1 List.all_takeWhile
  longest := by
    rintro other ⟨more, rfl⟩ hall
    rw [List.takeWhile_append_of_pos hall, List.length_append]
    exact Nat.le_add_right other.length _

variable {cs word rest : List Char} {kept : Option (List Char)}

/-- A word ends before a suffix. -/
theorem takeWhile_append_suffix (hword : ∀ c ∈ word, isWordChar c = true) (hrest : IsSuffix rest) :
    (word ++ rest).takeWhile isWordChar = word := by
  rw [List.takeWhile_append_of_pos hword]
  rcases hrest with rfl | ⟨qualifier, rfl, -⟩
  · exact List.append_nil word
  · rw [List.takeWhile_cons_of_neg (by decide), List.append_nil]

/-- The texts of the pattern, each with the word that is kept. -/
theorem matches_suffixPattern_iff :
    suffixPattern.Matches cs kept ↔
      ∃ word rest, cs = word ++ rest ∧ word ≠ [] ∧ (∀ c ∈ word, isWordChar c = true) ∧
        IsSuffix rest ∧ kept = some word := by
  constructor
  · intro h
    cases h with
    | @seq _ _ word rest k l first second =>
      cases first with
      | group part =>
        cases part with
        | run hleast hword =>
          have hne : word ≠ [] := List.ne_nil_of_length_pos hleast
          cases second with
          | absent => exact ⟨word, [], rfl, hne, hword, .inl rfl, rfl⟩
          | present part =>
            cases part with
            | @seq _ _ _ qualifier _ _ dash line =>
              cases dash with
              | one hdash =>
                cases line with
                | run _ hline =>
                  obtain rfl := eq_of_beq hdash
                  have hsame : '\n' ∉ qualifier := fun hmem => absurd (hline _ hmem) (by decide)
                  exact ⟨word, _, rfl, hne, hword, .inr ⟨qualifier, rfl, hsame⟩, rfl⟩
  · rintro ⟨word, rest, rfl, hne, hword, hrest, rfl⟩
    have hfirst : (Pattern.group (.run 1 isWordChar)).Matches word (some word) :=
      .group (.run (List.length_pos_iff.2 hne) hword)
    rcases hrest with rfl | ⟨qualifier, rfl, hsame⟩
    · exact .seq hfirst .absent
    · have hline : ∀ c ∈ qualifier, (c != '\n') = true := by
        intro c hc
        rw [bne_iff_ne]
        rintro rfl
        exact hsame hc
      exact .seq hfirst (.present (.seq (.one rfl) (.run (Nat.zero_le _) hline)))

/-- The suffix is dropped from the texts of the pattern. -/
theorem dropModeSuffix_append_suffix (hne : word ≠ []) (hword : ∀ c ∈ word, isWordChar c = true)
    (hrest : IsSuffix rest) : dropModeSuffix (word ++ rest) = word := by
  rcases hrest with rfl | ⟨qualifier, rfl, hsame⟩
  · have hdash : '-' ∉ word := fun hmem => absurd (hword _ hmem) (by decide)
    rw [List.append_nil, dropModeSuffix_of_no_dash hdash]
  · rw [dropModeSuffix_word_dash hword hne, if_neg hsame]

/-- Nothing is dropped from any other text. -/
theorem dropModeSuffix_of_not_matches (h : ∀ kept, ¬suffixPattern.Matches cs kept) :
    dropModeSuffix cs = cs := by
  rcases exists_qualified_or_eq cs with ⟨word, qualifier, hqualified⟩ | hwhole
  · refine absurd (matches_suffixPattern_iff.2 ⟨word, '-' :: qualifier, hqualified.eq_append,
      hqualified.word_ne_nil, hqualified.isWordChar_of_mem, .inr ⟨qualifier, rfl, ?_⟩, rfl⟩) (h _)
    exact hqualified.sameLine
  · exact hwhole

/-- A text is matched in one way at most, and then the word is kept. -/
theorem kept_of_matches (h : suffixPattern.Matches cs kept) : kept = some (dropModeSuffix cs) := by
  obtain ⟨word, rest, rfl, hne, hword, hrest, rfl⟩ := matches_suffixPattern_iff.1 h
  rw [dropModeSuffix_append_suffix hne hword hrest]

/-- Dropping the suffix once leaves none. -/
theorem dropModeSuffix_idem (cs : List Char) :
    dropModeSuffix (dropModeSuffix cs) = dropModeSuffix cs := by
  rcases exists_qualified_or_eq cs with ⟨word, qualifier, hqualified⟩ | hwhole
  · have hdash : '-' ∉ word := fun hmem => absurd (hqualified.isWordChar_of_mem _ hmem) (by decide)
    rw [hqualified.dropModeSuffix_eq, dropModeSuffix_of_no_dash hdash]
  · rw [hwhole, hwhole]

/-- If backtracking matches a whole text with the pattern, it keeps what is left of the text without
its mode suffix; if it does not, nothing is dropped. There is no other way to match the text. And
this is what one scan finds: the longest word at the start is left if it is followed by nothing, or
by a dash and text on the same line, and else the text is left as it is. What is left is a start of
the text without a suffix. -/
theorem dropModeSuffix_pattern (cs : List Char) :
    (∀ found, suffixPattern.fullMatch? cs = some found →
        found.kept = some (dropModeSuffix cs)) ∧
      (suffixPattern.fullMatch? cs = none → dropModeSuffix cs = cs) ∧
      (∀ kept, suffixPattern.Matches cs kept → kept = some (dropModeSuffix cs)) ∧
      (∃ word rest, LongestStart isWordChar cs word rest ∧
        (word ≠ [] ∧ IsSuffix rest → dropModeSuffix cs = word) ∧
        (¬(word ≠ [] ∧ IsSuffix rest) → dropModeSuffix cs = cs)) ∧
      dropModeSuffix (dropModeSuffix cs) = dropModeSuffix cs ∧ dropModeSuffix cs <+: cs := by
  have hlongest := longestStart_takeWhile isWordChar cs
  refine ⟨fun found h => kept_of_matches (Pattern.matches_of_fullMatch? h),
    fun h => dropModeSuffix_of_not_matches (Pattern.fullMatch?_eq_none_iff.1 h),
    fun kept h => kept_of_matches h,
    ⟨cs.takeWhile isWordChar, cs.dropWhile isWordChar, hlongest, ?dropped, ?left⟩,
    dropModeSuffix_idem cs, dropModeSuffix_prefix cs⟩
  case dropped =>
    rintro ⟨hne, hrest⟩
    have hdrop := dropModeSuffix_append_suffix hne hlongest.all hrest
    rwa [← hlongest.eq_append] at hdrop
  case left =>
    intro hnot
    apply dropModeSuffix_of_not_matches
    intro kept h
    obtain ⟨word, rest, rfl, hne, hword, hrest, -⟩ := matches_suffixPattern_iff.1 h
    have htake := takeWhile_append_suffix hword hrest
    have hdrop : (word ++ rest).dropWhile isWordChar = rest := by
      have happend := hlongest.eq_append
      rw [htake] at happend
      exact (List.append_cancel_left happend).symm
    rw [htake, hdrop] at hnot
    exact hnot ⟨hne, hrest⟩

/-- A line break at the very end is not on the same line either. -/
example : dropModeSuffix "AES-CBC\n".toList = "AES-CBC\n".toList := by decide +kernel

end CryptoAudit.Name
