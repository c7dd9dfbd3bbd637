import CryptoAudit.Proofs.Text.Case

/-!
# Upper case is final

What comes out of upper-casing is not changed by upper-casing it once more, also where one
character becomes several. The runs lead to code points that no run covers: they lie beside the
other run, or between two of its code points.

## Main definitions

* `CaseRun.spares`: a run leaves alone what another one leads to

## Main results

* `CaseRun.not_covers_move`: no run covers what a run leads to
* `upperChar_of_mem_upperChar`: the characters that upper-casing leads to
* `upperChar_of_mem_upperChars`: the same for texts
-/

namespace CryptoAudit.Text

/-- Whether a run leaves alone what another one leads to: it lies before or after it, or both take
every second code point and alternate. A run of a single code point may be the other one, too. -/
def CaseRun.spares (s r : CaseRun) : Bool :=
  Nat.blt (r.move r.last) s.first || Nat.blt s.last (r.move r.first) ||
    s.step == 2 && (r.step == 2 || r.first == r.last) && (r.move r.first + s.first) % 2 == 1

theorem spares_of_mem {r s : CaseRun} (hr : r ∈ upperRuns) (hs : s ∈ upperRuns) :
    s.spares r = true := by
  have pairs : (upperRuns.all fun r => upperRuns.all fun s => s.spares r) = true := by
    decide +kernel
  exact List.all_eq_true.1 (List.all_eq_true.1 pairs r hr) s hs

/-- What a run leads to lies between what its first and its last code point are moved to, and is
as far from the former as the code points themselves are. -/
theorem CaseRun.move_bounds {r : CaseRun} (hr : r ∈ upperRuns) {n : Nat} (h : r.covers n = true) :
    r.first ≤ n ∧ n ≤ r.last ∧ r.move n = r.move r.first + (n - r.first) ∧
      r.move n ≤ r.move r.last := by
  have hpoint := (isLetterPoint_of_covers hr h).1
  have hfirst : r.covers r.first = true := by
    simp only [covers, Bool.and_eq_true, decide_eq_true_eq] at h
    simp [covers]
    omega
  have hstart := (isLetterPoint_of_covers hr hfirst).1
  simp only [covers, Bool.and_eq_true, decide_eq_true_eq] at h
  simp only [move, Int.ofNat_eq_natCast] at hpoint hstart ⊢
  omega

/-- What a run leads to is covered by no run. -/
theorem CaseRun.not_covers_move {r s : CaseRun} (hr : r ∈ upperRuns) (hs : s ∈ upperRuns) {n : Nat}
    (h : r.covers n = true) : s.covers (r.move n) = false := by
  obtain ⟨hfirst, hlast, hmove, hend⟩ := move_bounds hr h
  rw [Bool.eq_false_iff]
  intro hcovers
  have hspares := spares_of_mem hr hs
  simp only [spares, Bool.or_eq_true, Bool.and_eq_true, Nat.blt_eq, beq_iff_eq] at hspares
  simp only [covers, Bool.and_eq_true, decide_eq_true_eq, beq_iff_eq] at h hcovers
  rcases hspares with (hbefore | hafter) | ⟨⟨hstep, htwo | hone⟩, hodd⟩
  · omega
  · omega
  · -- Both runs take every second code point, and they start an odd number of them apart.
    rw [htwo] at h
    rw [hstep] at hcovers
    omega
  · rw [hstep] at hcovers
    omega

/-- What a run leads to has no expansion. -/
theorem lookup_move_eq_none {r : CaseRun} (hr : r ∈ upperRuns) {n : Nat}
    (h : r.covers n = true) : upperExpansions.lookup (r.move n) = none := by
  have beside : (upperRuns.all fun r => upperExpansions.all fun entry =>
      Nat.blt entry.1 (r.move r.first) || Nat.blt (r.move r.last) entry.1) = true := by
    decide +kernel
  obtain ⟨-, -, hmove, hend⟩ := CaseRun.move_bounds hr h
  rw [List.lookup_eq_none_iff]
  intro entry hentry
  have houtside := List.all_eq_true.1 (List.all_eq_true.1 beside r hr) entry hentry
  simp only [Bool.or_eq_true, Nat.blt_eq] at houtside
  simp only [bne_iff_ne, ne_eq]
  omega

/-- A character that no table has stays what it is. -/
theorem upperChar_of_untouched {c : Char} (hsmall : ¬IsSmallPoint c.toNat)
    (hexpansion : upperExpansions.lookup c.toNat = none)
    (hrun : ∀ s ∈ upperRuns, s.covers c.toNat = false) : upperChar c = [c] := by
  by_cases hascii : c.toNat < 128
  · exact upperChar_of_ascii hascii hsmall
  · have hshift : shiftBy? upperRuns c.toNat = none := by
      rw [shiftBy?, List.find?_eq_none.2 fun s hs => by simp [hrun s hs], Option.map_none]
    simp [upperChar, if_neg hascii, hexpansion, hshift]

/-- The characters that upper-casing leads to are in upper case. -/
theorem upperChar_of_mem_upperChar {c d : Char} (h : d ∈ upperChar c) : upperChar d = [d] := by
  have expanded : (upperExpansions.all fun entry => entry.2.all fun n =>
      upperChar (Char.ofNat n) == [Char.ofNat n]) = true := by decide +kernel
  rcases upperChar_cases c with ⟨hsame, -⟩ | ⟨hsmall, hletter⟩ | ⟨entry, hentry, hpoints⟩ |
    ⟨r, hr, hcovers, hmoved⟩
  · rw [hsame, List.mem_singleton] at h
    rw [h, hsame]
  · rw [hletter, List.mem_singleton] at h
    have hcapital : IsLetterPoint (c.toNat - 32) := by
      simp only [IsLetterPoint, IsSmallPoint, Nat.isValidChar] at hsmall ⊢
      omega
    rw [h]
    apply upperChar_of_ascii
    · rw [hcapital.toNat_ofNat]
      have := hsmall.2
      omega
    · rw [hcapital.toNat_ofNat]
      exact hcapital.2.1
  · rw [hpoints] at h
    obtain ⟨n, hn, rfl⟩ := List.mem_map.1 h
    exact beq_iff_eq.1 (List.all_eq_true.1 (List.all_eq_true.1 expanded entry hentry) n hn)
  · rw [hmoved, List.mem_singleton] at h
    have hpoint := isLetterPoint_of_covers hr hcovers
    rw [h]
    apply upperChar_of_untouched <;> rw [hpoint.toNat_ofNat]
    · exact hpoint.2.1
    · exact lookup_move_eq_none hr hcovers
    · exact fun s hs => CaseRun.not_covers_move hr hs hcovers

/-- Upper-casing leads to texts in upper case. -/
theorem upperChar_of_mem_upperChars {cs : List Char} {d : Char} (h : d ∈ upperChars cs) :
    upperChar d = [d] := by
  obtain ⟨c, -, hd⟩ := List.mem_flatMap.1 h
  exact upperChar_of_mem_upperChar hd

end CryptoAudit.Text
