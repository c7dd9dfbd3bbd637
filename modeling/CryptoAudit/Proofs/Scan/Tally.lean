import CryptoAudit.Scan.Summary
import Mathlib.Algebra.Ring.Nat

/-!
# Counting items

Items are counted one by one. After every step the counted items are those so far, each once, in
the order in which they were first met, and each with the number of its occurrences. Sorting by
number does not change the order of items with one number, so among these the first one met stays
first.

## Main definitions

* `Tallies`: numbered items count the items of a list
* `asTexts`: numbered names as numbered values

## Main results

* `Tallies.add`: one more item
* `tallies_tally`: a whole list
* `pairwise_byNumber`: what sorting by number does to an order
* `valueCounts_texts`: the numbers of a list of texts
-/

namespace CryptoAudit

/-! ### Numbering -/

/-- The numbered items are the items of the list in the order of their first places, each with the
number of its occurrences. -/
structure Tallies {κ : Type} [BEq κ] (counts : List (κ × Nat)) (items : List κ) : Prop where
  counted : ∀ x, field? x counts = if items.contains x then some (items.count x) else none
  firsts : (counts.map Prod.fst).Pairwise fun x y => items.idxOf x < items.idxOf y
  total : (counts.map Prod.snd).sum = items.length

/-- Raising the number of one item by one raises the total by one. -/
theorem sum_setField_succ {κ : Type} [BEq κ] (x : κ) (counts : List (κ × Nat)) :
    ((setField x ((field? x counts).getD 0 + 1) counts).map Prod.snd).sum =
      (counts.map Prod.snd).sum + 1 := by
  induction counts with
  | nil => simp [setField]
  | cons count counts ih =>
    obtain ⟨y, n⟩ := count
    by_cases h : y == x
    · simp only [setField, field?, h, if_true, Option.getD_some, List.map_cons, List.sum_cons]
      omega
    · simp only [setField, field?, h, if_false, List.map_cons, List.sum_cons, Bool.false_eq_true,
        ih]
      omega

/-- Items with different first places are different. -/
theorem Tallies.nodup_keys {κ : Type} [BEq κ] {counts : List (κ × Nat)} {items : List κ}
    (h : Tallies counts items) : (counts.map Prod.fst).Nodup := by
  refine h.firsts.imp ?_
  rintro x y hlt rfl
  exact Nat.lt_irrefl _ hlt

section Lawful

variable {κ : Type} [BEq κ] [LawfulBEq κ] {counts : List (κ × Nat)} {items : List κ}

namespace Tallies

theorem mem_keys_iff (h : Tallies counts items) {x : κ} :
    x ∈ counts.map Prod.fst ↔ x ∈ items := by
  have hx := h.counted x
  have hnone : field? x counts = none ↔ x ∉ counts.map Prod.fst := field?_eq_none_iff
  by_cases hmem : x ∈ items <;> simp_all

/-- An item has the number of its occurrences, and items that do not occur have none. -/
theorem mem_iff (h : Tallies counts items) {x : κ} {n : Nat} :
    (x, n) ∈ counts ↔ 0 < n ∧ n = items.count x := by
  rw [← field?_eq_some_iff h.nodup_keys, h.counted]
  by_cases hmem : x ∈ items
  · have hpos : 0 < items.count x := List.count_pos_iff.2 hmem
    simp only [List.contains_iff_mem.2 hmem, if_true, Option.some.injEq]
    omega
  · have hzero : items.count x = 0 := List.count_eq_zero.2 hmem
    simp only [List.contains_eq_mem, hmem, decide_false, Bool.false_eq_true, if_false, reduceCtorEq,
      false_iff]
    omega

/-- One more item: it is numbered one higher, and comes last if it is new. -/
theorem add (h : Tallies counts items) (x : κ) :
    Tallies (setField x ((field? x counts).getD 0 + 1) counts) (items ++ [x]) where
  counted y := by
    by_cases hxy : x = y
    · subst hxy
      rw [field?_setField_self (by simp), h.counted]
      by_cases hmem : x ∈ items
      · simp [hmem]
      · simp [hmem, List.count_eq_zero.2 hmem]
    · rw [field?_setField_of_ne hxy, h.counted]
      simp [List.count_append, Ne.symm hxy, hxy]
  firsts := by
    have hold : (counts.map Prod.fst).Pairwise fun y z =>
        (items ++ [x]).idxOf y < (items ++ [x]).idxOf z := by
      refine h.firsts.imp_of_mem ?_
      intro y z hy hz hlt
      have hy' : y ∈ items := h.mem_keys_iff.1 hy
      have hz' : z ∈ items := h.mem_keys_iff.1 hz
      rw [List.idxOf_append, List.idxOf_append, if_pos hy', if_pos hz']
      exact hlt
    rw [keys_setField]
    split
    · exact hold
    · rename_i hnew
      have hx : x ∉ items := by
        intro hmem
        have hkey := h.mem_keys_iff.2 hmem
        exact hnew (List.any_eq_true.2 ⟨x, hkey, by simp⟩)
      rw [List.pairwise_append]
      refine ⟨hold, List.pairwise_singleton _ _, ?_⟩
      intro y hy z hz
      obtain rfl := List.mem_singleton.1 hz
      have hy' : y ∈ items := h.mem_keys_iff.1 hy
      rw [List.idxOf_append, List.idxOf_append, if_pos hy', if_neg hx]
      exact Nat.lt_of_lt_of_le (List.idxOf_lt_length_iff.2 hy') (Nat.le_add_left _ _)
  total := by
    rw [sum_setField_succ, h.total, List.length_append, List.length_singleton]

end Tallies

/-- Counting a list numbers its items. -/
theorem tallies_tally (items : List κ) : Tallies (tally items) items := by
  have start : Tallies ([] : List (κ × Nat)) [] := ⟨fun _ => rfl, .nil, rfl⟩
  have run (before after : List κ) (counts : List (κ × Nat)) (h : Tallies counts before) :
      Tallies (after.foldl (fun counts x => setField x ((field? x counts).getD 0 + 1) counts)
        counts) (before ++ after) := by
    induction after generalizing before counts with
    | nil => simpa using h
    | cons x after ih => simpa using ih (before ++ [x]) _ (h.add x)
  exact run [] items [] start

end Lawful

/-! ### Sorting by number -/

section Sorting

variable {κ : Type}

theorem higher_trans (a b c : κ × Nat) (hab : decide (b.2 ≤ a.2) = true)
    (hbc : decide (c.2 ≤ b.2) = true) : decide (c.2 ≤ a.2) = true := by
  simp only [decide_eq_true_eq] at hab hbc ⊢
  omega

theorem higher_total (a b : κ × Nat) : (decide (b.2 ≤ a.2) || decide (a.2 ≤ b.2)) = true := by
  simp only [Bool.or_eq_true, decide_eq_true_eq]
  omega

theorem perm_byNumber (counts : List (κ × Nat)) : (byNumber counts).Perm counts :=
  List.mergeSort_perm counts _

/-- The items of one number stay in their order. -/
theorem filter_byNumber (counts : List (κ × Nat)) (n : Nat) :
    (byNumber counts).filter (·.2 = n) = counts.filter (·.2 = n) := by
  -- They are in descending order as they stand, so sorting keeps them as a sublist.
  have hequal : (counts.filter (·.2 = n)).Pairwise fun a b => decide (b.2 ≤ a.2) = true := by
    refine List.pairwise_of_forall_mem_list ?_
    intro a ha b hb
    have hna : a.2 = n := by simpa using (List.mem_filter.1 ha).2
    have hnb : b.2 = n := by simpa using (List.mem_filter.1 hb).2
    simp [hna, hnb]
  have hkept : (counts.filter (·.2 = n)).Sublist (byNumber counts) := by
    exact List.sublist_mergeSort higher_trans higher_total hequal List.filter_sublist
  have hsub := hkept.filter (·.2 = n)
  rw [List.filter_filter] at hsub
  simp only [Bool.and_self] at hsub
  refine (hsub.eq_of_length ?_).symm
  exact ((perm_byNumber counts).filter _).length_eq.symm

/-- Sorting by number puts higher numbers first, and keeps every order within one number. -/
theorem pairwise_byNumber {before : κ × Nat → κ × Nat → Prop} {counts : List (κ × Nat)}
    (h : counts.Pairwise before) :
    (byNumber counts).Pairwise fun a b => b.2 < a.2 ∨ a.2 = b.2 ∧ before a b := by
  have hsorted : (byNumber counts).Pairwise fun a b => decide (b.2 ≤ a.2) = true :=
    List.pairwise_mergeSort higher_trans higher_total counts
  rw [List.pairwise_iff_forall_sublist]
  intro a b hab
  have hle : b.2 ≤ a.2 := of_decide_eq_true (List.pairwise_iff_forall_sublist.1 hsorted hab)
  rcases Nat.lt_or_eq_of_le hle with hlt | heq
  · exact .inl hlt
  · -- The two items of one number stand in the same order among the items of that number.
    refine .inr ⟨heq.symm, ?_⟩
    have hpair := hab.filter (·.2 = b.2)
    rw [filter_byNumber] at hpair
    simp only [heq, decide_true, List.filter_cons_of_pos, List.filter_nil] at hpair
    exact List.pairwise_iff_forall_sublist.1 h (hpair.trans List.filter_sublist)

end Sorting

/-! ### Counting texts -/

/-- Numbered names as numbered values. -/
def asTexts (counts : List (String × Nat)) : List (Value × Nat) :=
  counts.map fun count => (.text count.1, count.2)

theorem field?_asTexts (name : String) (counts : List (String × Nat)) :
    field? (Value.text name) (asTexts counts) = field? name counts := by
  induction counts with
  | nil => rfl
  | cons count counts ih =>
    obtain ⟨other, n⟩ := count
    simp only [asTexts, List.map_cons, field?, Value.equals_text]
    split
    · rfl
    · exact ih

theorem setField_asTexts (name : String) (n : Nat) (counts : List (String × Nat)) :
    setField (Value.text name) n (asTexts counts) = asTexts (setField name n counts) := by
  induction counts with
  | nil => rfl
  | cons count counts ih =>
    obtain ⟨other, m⟩ := count
    simp only [asTexts, List.map_cons, setField, Value.equals_text] at ih ⊢
    split
    · rfl
    · rw [ih]
      rfl

/-- Texts are counted as the names that they are. -/
theorem tally_texts (names : List String) :
    tally (names.map Value.text) = asTexts (tally names) := by
  have run (counts : List (String × Nat)) :
      (names.map Value.text).foldl
          (fun counts x => setField x ((field? x counts).getD 0 + 1) counts) (asTexts counts) =
        asTexts (names.foldl (fun counts x => setField x ((field? x counts).getD 0 + 1) counts)
          counts) := by
    induction names generalizing counts with
    | nil => rfl
    | cons name names ih =>
      rw [List.map_cons, List.foldl_cons, List.foldl_cons, field?_asTexts, setField_asTexts]
      exact ih _
  exact run []

/-- No text is missing, so all of them are counted. -/
theorem valueCounts_texts (names : List String) :
    valueCounts (names.map Value.text) = asTexts (byNumber (tally names)) := by
  have hall : (names.map Value.text).filter (fun v => !isMissing v) = names.map Value.text := by
    refine List.filter_eq_self.2 ?_
    intro v hv
    obtain ⟨name, -, rfl⟩ := List.mem_map.1 hv
    rfl
  rw [valueCounts, hall, tally_texts, byNumber, byNumber, asTexts, asTexts]
  rw [List.map_mergeSort]
  intro a _ b _
  rfl

end CryptoAudit
