import CryptoAudit.Text.Case

/-!
# What upper-casing leaves alone

Upper-casing makes letters only, and no small letters of ASCII. A character below the capital `A`,
such as a digit, a dash, a blank or a line break, stays what it is, and it never comes from another
character. So such characters stand in a text exactly if they stand in its upper-case form.

## Main definitions

* `IsSmallPoint`: the code points of the small letters of ASCII
* `IsLetterPoint`: the code points that upper-casing may lead to

## Main results

* `upperChar_of_lt`: a character below the letters stays what it is
* `upperChar_cases`: the four ways in which a character is upper-cased
* `mem_upperChar_cases`: a character that does not stay what it is becomes letters
* `mem_upperChars_iff`: the characters below the letters in an upper-case text
* `not_isSmallPoint_of_mem_upperChars`: an upper-case text has no small letters of ASCII
-/

namespace CryptoAudit.Text

/-- The code point of a small letter of ASCII. -/
def IsSmallPoint (n : Nat) : Prop :=
  97 ≤ n ∧ n ≤ 122

instance (n : Nat) : Decidable (IsSmallPoint n) :=
  inferInstanceAs (Decidable (_ ∧ _))

/-- A code point that is a character, not below the letters and no small letter of ASCII. -/
def IsLetterPoint (n : Nat) : Prop :=
  65 ≤ n ∧ ¬IsSmallPoint n ∧ n.isValidChar

instance (n : Nat) : Decidable (IsLetterPoint n) :=
  inferInstanceAs (Decidable (_ ∧ _ ∧ (_ ∨ _ ∧ _)))

theorem IsLetterPoint.toNat_ofNat {n : Nat} (h : IsLetterPoint n) : (Char.ofNat n).toNat = n := by
  rw [Char.ofNat, dif_pos h.2.2]
  rfl

theorem IsLetterPoint.le_ofNat {n : Nat} (h : IsLetterPoint n) : 'A' ≤ Char.ofNat n := by
  change 65 ≤ (Char.ofNat n).toNat
  rw [h.toNat_ofNat]
  exact h.1

theorem isLetterPoint_of_mem_upperExpansions :
    ∀ entry ∈ upperExpansions, ∀ n ∈ entry.2, IsLetterPoint n := by
  decide +kernel

/-- Where a run moves a code point. -/
def CaseRun.move (r : CaseRun) (n : Nat) : Nat :=
  (Int.ofNat n + r.shift).toNat

/-- A run moves its code points to letters, if it does so with the first and the last of them and
neither a small letter of ASCII nor a surrogate lies between. -/
theorem isLetterPoint_of_covers {r : CaseRun} (hr : r ∈ upperRuns) {n : Nat}
    (h : r.covers n = true) : IsLetterPoint (r.move n) := by
  have ends : ∀ r ∈ upperRuns, 65 ≤ r.first + r.shift ∧
      (r.last + r.shift < 97 ∨ 122 < r.first + r.shift) ∧
      (r.last + r.shift < 0xD800 ∨ 0xDFFF < r.first + r.shift ∧ r.last + r.shift < 0x110000) := by
    decide +kernel
  have hends := ends r hr
  simp only [CaseRun.covers, Bool.and_eq_true, decide_eq_true_eq] at h
  simp only [CaseRun.move, IsLetterPoint, IsSmallPoint, Nat.isValidChar, Int.ofNat_eq_natCast]
  omega

/-- A character of ASCII that is no small letter stays what it is. -/
theorem upperChar_of_ascii {c : Char} (hascii : c.toNat < 128) (hsmall : ¬IsSmallPoint c.toNat) :
    upperChar c = [c] := by
  have htest : ¬(97 ≤ c.toNat && c.toNat ≤ 122) = true := by
    simpa [IsSmallPoint] using hsmall
  rw [upperChar, if_pos hascii, if_neg htest]

/-- A character below the letters stays what it is. -/
theorem upperChar_of_lt {c : Char} (h : c < 'A') : upperChar c = [c] := by
  have hbelow : c.toNat < 65 := h
  refine upperChar_of_ascii (by omega) ?_
  rw [IsSmallPoint]
  omega

/-- A character that upper-casing changes is a small letter of ASCII, has an expansion, or is moved
by a run. -/
theorem upperChar_cases (c : Char) :
    (upperChar c = [c] ∧ ¬IsSmallPoint c.toNat) ∨
      (IsSmallPoint c.toNat ∧ upperChar c = [Char.ofNat (c.toNat - 32)]) ∨
      (∃ entry ∈ upperExpansions, upperChar c = entry.2.map Char.ofNat) ∨
      ∃ r ∈ upperRuns, r.covers c.toNat = true ∧ upperChar c = [Char.ofNat (r.move c.toNat)] := by
  by_cases hascii : c.toNat < 128
  · by_cases hsmall : IsSmallPoint c.toNat
    · have htest : (97 ≤ c.toNat && c.toNat ≤ 122) = true := by
        simpa [IsSmallPoint] using hsmall
      exact .inr (.inl ⟨hsmall, by rw [upperChar, if_pos hascii, if_pos htest]⟩)
    · exact .inl ⟨upperChar_of_ascii hascii hsmall, hsmall⟩
  · have hsmall : ¬IsSmallPoint c.toNat := by
      rw [IsSmallPoint]
      omega
    cases hpoints : upperExpansions.lookup c.toNat with
    | some points =>
      have hentry : (c.toNat, points) ∈ upperExpansions := by
        obtain ⟨before, after, htable, -⟩ := List.lookup_eq_some_iff.1 hpoints
        rw [htable]
        exact List.mem_append_right _ List.mem_cons_self
      refine .inr (.inr (.inl ⟨_, hentry, ?_⟩))
      simp only [upperChar, if_neg hascii, hpoints]
    | none =>
      cases hrun : upperRuns.find? (·.covers c.toNat) with
      | none =>
        refine .inl ⟨?_, hsmall⟩
        simp [upperChar, if_neg hascii, hpoints, shiftBy?, hrun]
      | some r =>
        have hcovers : r.covers c.toNat = true := (List.find?_eq_some_iff_append.1 hrun).1
        refine .inr (.inr (.inr ⟨r, List.mem_of_find?_eq_some hrun, hcovers, ?_⟩))
        simp [upperChar, if_neg hascii, hpoints, shiftBy?, hrun, CaseRun.move]

/-- Every character stays what it is, or it becomes letters. -/
theorem mem_upperChar_cases {c d : Char} (h : d ∈ upperChar c) :
    (d = c ∧ ¬IsSmallPoint c.toNat) ∨ ∃ n, IsLetterPoint n ∧ d = Char.ofNat n := by
  rcases upperChar_cases c with ⟨hsame, hsmall⟩ | ⟨hsmall, hletter⟩ | ⟨entry, hentry, hpoints⟩ |
    ⟨r, hr, hcovers, hmoved⟩
  · rw [hsame, List.mem_singleton] at h
    exact .inl ⟨h, hsmall⟩
  · rw [hletter, List.mem_singleton] at h
    refine .inr ⟨c.toNat - 32, ?_, h⟩
    simp only [IsLetterPoint, IsSmallPoint, Nat.isValidChar] at hsmall ⊢
    omega
  · rw [hpoints] at h
    obtain ⟨n, hn, rfl⟩ := List.mem_map.1 h
    exact .inr ⟨n, isLetterPoint_of_mem_upperExpansions entry hentry n hn, rfl⟩
  · rw [hmoved, List.mem_singleton] at h
    exact .inr ⟨_, isLetterPoint_of_covers hr hcovers, h⟩

/-- The characters below the letters are those of the text before it was upper-cased. -/
theorem mem_upperChars_iff {d : Char} (h : d < 'A') (cs : List Char) :
    d ∈ upperChars cs ↔ d ∈ cs := by
  rw [upperChars, List.mem_flatMap]
  constructor
  · rintro ⟨c, hc, hd⟩
    rcases mem_upperChar_cases hd with ⟨rfl, -⟩ | ⟨n, hn, rfl⟩
    · exact hc
    · exact absurd h (Char.not_lt.2 hn.le_ofNat)
  · intro hd
    exact ⟨d, hd, by rw [upperChar_of_lt h]; exact List.mem_singleton_self d⟩

/-- No character of an upper-case text is a small letter of ASCII. -/
theorem not_isSmallPoint_of_mem_upperChars {cs : List Char} {d : Char}
    (h : d ∈ upperChars cs) : ¬IsSmallPoint d.toNat := by
  obtain ⟨c, -, hd⟩ := List.mem_flatMap.1 h
  rcases mem_upperChar_cases hd with ⟨rfl, hsmall⟩ | ⟨n, hn, rfl⟩
  · exact hsmall
  · rw [hn.toNat_ofNat]
    exact hn.2.1

end CryptoAudit.Text
