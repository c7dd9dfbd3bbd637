import CryptoAudit.Text.Blank
import CryptoAudit.Text.Case

/-!
# Blanks at the ends of a text

Dropping the blanks at both ends leaves what stands between them. Blanks have no case, so it does
not matter whether they are dropped before or after upper-casing.

## Main definitions

* `IsTrimmed`: a text has no blank at its ends

## Main results

* `upperChars_of_blank`: blanks in upper case
* `exists_append_stripChars`: a text is what is left of it between two runs of blanks
* `isBlankText_strip`: a text that is not blank is not blank without the blanks at its ends
* `strip_eq_self_iff`: the texts that stay as they are
-/

namespace CryptoAudit.Text

/-- The code points of the blanks. -/
def blankPoints : List Nat :=
  [0x9, 0xA, 0xB, 0xC, 0xD, 0x1C, 0x1D, 0x1E, 0x1F, 0x20, 0x85, 0xA0, 0x1680, 0x2000, 0x2001,
    0x2002, 0x2003, 0x2004, 0x2005, 0x2006, 0x2007, 0x2008, 0x2009, 0x200A, 0x2028, 0x2029, 0x202F,
    0x205F, 0x3000]

theorem toNat_mem_blankPoints {c : Char} (h : isBlank c = true) : c.toNat ∈ blankPoints := by
  simp only [isBlank, Bool.or_eq_true, Bool.and_eq_true, decide_eq_true_eq, beq_iff_eq] at h
  simp only [blankPoints, List.mem_cons, List.not_mem_nil, or_false]
  omega

/-- A blank is the same in upper case. -/
theorem upperChar_of_blank {c : Char} (h : isBlank c = true) : upperChar c = [c] := by
  have same : ∀ n ∈ blankPoints, upperChar (Char.ofNat n) = [Char.ofNat n] := by decide +kernel
  have := same c.toNat (toNat_mem_blankPoints h)
  rwa [Char.ofNat_toNat] at this

theorem upperChars_of_blank {cs : List Char} (h : ∀ c ∈ cs, isBlank c = true) :
    upperChars cs = cs :=
  upperChars_eq_self fun c hc => upperChar_of_blank (h c hc)

/-- A text is what is left of it between two runs of blanks. -/
theorem exists_append_stripChars (cs : List Char) :
    ∃ before after, cs = before ++ (stripChars cs ++ after) ∧
      (∀ c ∈ before, isBlank c = true) ∧ ∀ c ∈ after, isBlank c = true := by
  have hrun (ds : List Char) : ∀ c ∈ ds.takeWhile isBlank, isBlank c = true :=
    List.all_eq_true.1 List.all_takeWhile
  have hend (ds : List Char) : ds = stripEnd ds ++ (ds.reverse.takeWhile isBlank).reverse := by
    rw [stripEnd, ← List.reverse_append, List.takeWhile_append_dropWhile, List.reverse_reverse]
  refine ⟨cs.takeWhile isBlank, ((cs.dropWhile isBlank).reverse.takeWhile isBlank).reverse,
    ?_, hrun cs, fun c hc => hrun _ c (List.mem_reverse.1 hc)⟩
  rw [stripChars, ← hend, List.takeWhile_append_dropWhile]

theorem isBlankText_strip (s : String) : isBlankText (strip s) = isBlankText s := by
  obtain ⟨before, after, hs, hbefore, hafter⟩ := exists_append_stripChars s.toList
  rw [isBlankText, isBlankText, strip, String.toList_ofList, hs, List.all_append, List.all_append,
    List.all_eq_true.2 hbefore, List.all_eq_true.2 hafter, ← hs, Bool.true_and, Bool.and_true]

/-! ### Texts without blanks at the ends -/

/-- Neither the first nor the last character of a text is blank. -/
def IsTrimmed (s : String) : Prop :=
  ∀ c, s.toList.head? = some c ∨ s.toList.getLast? = some c → isBlank c = false

theorem dropWhile_eq_self_iff {α : Type} {p : α → Bool} {xs : List α} :
    xs.dropWhile p = xs ↔ ∀ x, xs.head? = some x → p x = false := by
  cases xs with
  | nil => simp
  | cons x xs =>
    cases hx : p x with
    | false => simp [hx]
    | true =>
      have hlength : (xs.dropWhile p).length < (x :: xs).length :=
        Nat.lt_succ_of_le (List.dropWhile_sublist p).length_le
      have hne : xs.dropWhile p ≠ x :: xs := fun h => Nat.ne_of_lt hlength (congrArg List.length h)
      simp [hx, hne]

theorem stripEnd_eq_self_iff {cs : List Char} :
    stripEnd cs = cs ↔ ∀ c, cs.getLast? = some c → isBlank c = false := by
  rw [stripEnd, List.reverse_eq_iff, dropWhile_eq_self_iff, List.head?_reverse]

/-- A text stays as it is exactly if it has no blank at its ends. -/
theorem strip_eq_self_iff {s : String} : strip s = s ↔ IsTrimmed s := by
  have hends : IsTrimmed s ↔
      s.toList.dropWhile isBlank = s.toList ∧ stripEnd s.toList = s.toList := by
    rw [dropWhile_eq_self_iff, stripEnd_eq_self_iff]
    exact ⟨fun h => ⟨fun c hc => h c (.inl hc), fun c hc => h c (.inr hc)⟩,
      fun h c hc => hc.elim (h.1 c) (h.2 c)⟩
  have hstrip : strip s = s ↔ stripChars s.toList = s.toList := by
    rw [strip, ← String.toList_inj, String.toList_ofList]
  rw [hends, hstrip, stripChars]
  constructor
  · intro h
    have hend : (stripEnd (s.toList.dropWhile isBlank)).length ≤
        (s.toList.dropWhile isBlank).length := by
      have hdropped := (List.dropWhile_sublist (l := (s.toList.dropWhile isBlank).reverse)
        isBlank).length_le
      rwa [List.length_reverse, ← List.length_reverse, ← stripEnd] at hdropped
    rw [h] at hend
    have hstart := (List.dropWhile_sublist (p := isBlank) (l := s.toList)).eq_of_length_le hend
    rw [hstart] at h
    exact ⟨hstart, h⟩
  · rintro ⟨hstart, hend⟩
    rw [hstart, hend]

end CryptoAudit.Text
