import CryptoAudit.Proofs.Scan.Selection
import CryptoAudit.Proofs.Scan.Tally
import Mathlib.Algebra.BigOperators.Group.List.Basic
import Mathlib.Data.List.Dedup

/-!
# Accounted rows

The counts of a summary and the selected rows come from different masks over one classified
table. Row by row, a matched row is weak or strong and of one category, and an unmatched row is
neither. So the counts add up, and those by category and strength give the number of findings for
any settings.

## Main definitions

* `Summary.ofOutcomes`: the counts of a list of outcomes
* `Summary.Accounts`: what the counts say about the outcomes, and how they add up
* `askedCategories`: the categories that a filter asks for

## Main results

* `HasResults.ofTable_eq`: the counts of a classified table are those of its outcomes
* `Summary.accounts_ofOutcomes`: they account for all outcomes
* `countP_isReported`: the number of reported rows from the counts by category and strength
* `summary_accounts`: the summary of a table accounts for its rows and its findings
-/

namespace CryptoAudit

/-! ### Counts that add up -/

/-- A count that is split for each item is split for the whole list. -/
theorem countP_eq_sum {α κ : Type} {p : α → Bool} {parts : List κ} {q : κ → α → Bool}
    (h : ∀ x, (p x).toNat = (parts.map fun k => (q k x).toNat).sum) (xs : List α) :
    xs.countP p = (parts.map fun k => xs.countP (q k)).sum := by
  induction xs with
  | nil => simp
  | cons x xs ih =>
    have hcons (test : α → Bool) : (x :: xs).countP test = xs.countP test + (test x).toNat := by
      cases hx : test x <;> simp [hx]
    simp only [hcons, List.sum_map_add, ih, h]

/-- A category is one of distinct categories, or none of them. -/
theorem toNat_contains {asked : List Category} (distinct : asked.Nodup) (c : Category)
    (b : Bool) :
    (asked.contains c && b).toNat = (asked.map fun d => (c == d && b).toNat).sum := by
  induction asked with
  | nil => rfl
  | cons d asked ih =>
    rw [List.nodup_cons] at distinct
    rw [List.map_cons, List.sum_cons, ← ih distinct.2, List.contains_cons]
    by_cases hcd : c = d
    · subst hcd
      have hnew : asked.contains c = false := by simpa using distinct.1
      simp only [hnew, beq_self_eq_true, Bool.true_or, Bool.false_and, Bool.toNat_false,
        Nat.add_zero]
    · have hother : (c == d) = false := by simpa using hcd
      simp only [hother, Bool.false_or, Bool.false_and, Bool.toNat_false, Nat.zero_add]

/-- Whether what a name denotes has a strength. -/
def isOfStrength (isWeak : Bool) (found : Option Entry) : Bool :=
  found.any fun e => e.isWeak == isWeak

/-- Whether what a name denotes has a category and a strength. -/
def isOfKind (c : Category) (isWeak : Bool) (found : Option Entry) : Bool :=
  found.any fun e => e.category == c && e.isWeak == isWeak

/-- The name of a weak entry. -/
def weakName? (found : Option Entry) : Option String :=
  (found.filter (·.isWeak)).map Entry.name

/-- Every entry is weak or strong. -/
theorem countP_isSome (founds : List (Option Entry)) :
    founds.countP Option.isSome =
      founds.countP (isOfStrength true) + founds.countP (isOfStrength false) := by
  have hrow (found : Option Entry) :
      found.isSome.toNat = ([true, false].map fun b => (isOfStrength b found).toNat).sum := by
    cases found with
    | none => rfl
    | some e => cases h : e.isWeak <;> simp [isOfStrength, h]
  simpa using countP_eq_sum hrow founds

/-- Every entry is of one category. -/
theorem countP_isOfStrength (isWeak : Bool) (founds : List (Option Entry)) :
    founds.countP (isOfStrength isWeak) =
      (Category.all.map fun c => founds.countP (isOfKind c isWeak)).sum := by
  refine countP_eq_sum ?_ founds
  intro found
  cases found with
  | none => rfl
  | some e =>
    have hone := toNat_contains Category.nodup_all e.category (e.isWeak == isWeak)
    rw [List.contains_iff_mem.2 (Category.mem_all e.category), Bool.true_and] at hone
    exact hone

namespace Summary

/-- The counts of a list of outcomes. -/
def ofOutcomes (founds : List (Option Entry)) : Summary where
  candidates := founds.length
  matched := founds.countP Option.isSome
  unmatched := founds.countP Option.isNone
  weak := founds.countP (isOfStrength true)
  strong := founds.countP (isOfStrength false)
  byCategory := Category.all.map fun c =>
    (c, founds.countP (isOfKind c true), founds.countP (isOfKind c false))
  weakNames := byNumber (tally (founds.filterMap weakName?))

/-- The number of weak rows of a category. -/
def weakIn (s : Summary) (c : Category) : Nat :=
  ((field? c s.byCategory).getD (0, 0)).1

/-- The number of strong rows of a category. -/
def strongIn (s : Summary) (c : Category) : Nat :=
  ((field? c s.byCategory).getD (0, 0)).2

/-- The counts are those of the outcomes, one outcome for each row, and they add up. The weak
names are numbered by their rows, the highest numbers first, and those of one number in the order
of their first rows. -/
structure Accounts (s : Summary) (founds : List (Option Entry)) : Prop where
  categories : s.byCategory.map Prod.fst = Category.all
  candidates : s.candidates = founds.length
  matched : s.matched = founds.countP Option.isSome
  weak : s.weak = founds.countP (isOfStrength true)
  strong : s.strong = founds.countP (isOfStrength false)
  weakIn : ∀ c, s.weakIn c = founds.countP (isOfKind c true)
  strongIn : ∀ c, s.strongIn c = founds.countP (isOfKind c false)
  matched_add_unmatched : s.matched + s.unmatched = s.candidates
  weak_add_strong : s.weak + s.strong = s.matched
  sum_weakIn : (Category.all.map s.weakIn).sum = s.weak
  sum_strongIn : (Category.all.map s.strongIn).sum = s.strong
  mem_weakNames : ∀ name n, (name, n) ∈ s.weakNames ↔
    0 < n ∧ n = founds.countP fun found => found.any fun e => e.isWeak && e.name == name
  distinct : (s.weakNames.map Prod.fst).Nodup
  sum_weakNames : (s.weakNames.map Prod.snd).sum = s.weak
  order : s.weakNames.Pairwise fun a b => b.2 < a.2 ∨ a.2 = b.2 ∧
    (founds.filterMap weakName?).idxOf a.1 < (founds.filterMap weakName?).idxOf b.1

theorem weakIn_ofOutcomes (c : Category) (founds : List (Option Entry)) :
    (ofOutcomes founds).weakIn c = founds.countP (isOfKind c true) := by
  cases c <;> rfl

theorem strongIn_ofOutcomes (c : Category) (founds : List (Option Entry)) :
    (ofOutcomes founds).strongIn c = founds.countP (isOfKind c false) := by
  cases c <;> rfl

/-- A weak name occurs once for each row with a weak entry of that name. -/
theorem count_weakNames (name : String) (founds : List (Option Entry)) :
    (founds.filterMap weakName?).count name =
      founds.countP fun found => found.any fun e => e.isWeak && e.name == name := by
  rw [List.count_filterMap]
  congr 1
  funext found
  cases found with
  | none => rfl
  | some e => cases h : e.isWeak <;> simp [weakName?, h]

/-- Each weak row has one weak name. -/
theorem length_weakNames (founds : List (Option Entry)) :
    (founds.filterMap weakName?).length = founds.countP (isOfStrength true) := by
  rw [List.length_filterMap_eq_countP]
  congr 1
  funext found
  cases found with
  | none => rfl
  | some e => cases h : e.isWeak <;> simp [weakName?, isOfStrength, h]

/-- The counts of a list of outcomes account for all of them. -/
theorem accounts_ofOutcomes (founds : List (Option Entry)) :
    (ofOutcomes founds).Accounts founds where
  categories := rfl
  candidates := rfl
  matched := rfl
  weak := rfl
  strong := rfl
  weakIn c := weakIn_ofOutcomes c founds
  strongIn c := strongIn_ofOutcomes c founds
  matched_add_unmatched := by
    have hlength := @List.length_eq_countP_add_countP _ Option.isSome founds
    simp only [decide_not, Bool.decide_eq_true, Option.not_isSome] at hlength
    exact hlength.symm
  weak_add_strong := (countP_isSome founds).symm
  sum_weakIn := by
    rw [funext fun c => weakIn_ofOutcomes c founds]
    exact (countP_isOfStrength true founds).symm
  sum_strongIn := by
    rw [funext fun c => strongIn_ofOutcomes c founds]
    exact (countP_isOfStrength false founds).symm
  mem_weakNames name n := by
    rw [← count_weakNames, ← (tallies_tally (founds.filterMap weakName?)).mem_iff]
    exact (perm_byNumber _).mem_iff
  distinct := by
    have hnodup := (tallies_tally (founds.filterMap weakName?)).nodup_keys
    exact ((perm_byNumber _).map Prod.fst).nodup_iff.2 hnodup
  sum_weakNames := by
    have hperm := (perm_byNumber (tally (founds.filterMap weakName?))).map Prod.snd
    have hsum := hperm.sum_eq
    rw [(tallies_tally _).total, length_weakNames] at hsum
    exact hsum
  order := by
    -- Names are counted in the order of their first rows, and sorting by number is stable.
    have hfirsts := (tallies_tally (founds.filterMap weakName?)).firsts
    rw [List.pairwise_map] at hfirsts
    exact pairwise_byNumber hfirsts

end Summary

/-! ### Summaries of tables -/

/-- A mask that comes from a list marks the items that pass the test. -/
theorem marked_map {α : Type} (p : α → Bool) (xs : List α) : marked (xs.map p) = xs.countP p := by
  rw [marked, List.countP_map]
  rfl

/-- As many items are kept as are marked. -/
theorem length_keep {α : Type} {mask : List Bool} {xs : List α}
    (hlen : mask.length = xs.length) : (keep mask xs).length = marked mask := by
  have hmask : (xs.zip mask).map Prod.snd = mask := List.map_snd_zip (Nat.le_of_eq hlen)
  rw [keep, List.length_map, ← List.countP_eq_length_filter, marked]
  conv_rhs => rw [← hmask, List.countP_map]
  rfl

/-- The names of the weak rows. -/
theorem map_resultCell_name (founds : List (Option Entry)) :
    (founds.filter (isOfStrength true)).map (resultCell ResultColumn.name) =
      (founds.filterMap weakName?).map .text := by
  induction founds with
  | nil => rfl
  | cons found founds ih =>
    cases found with
    | none => exact ih
    | some e =>
      have hcell : resultCell ResultColumn.name (some e) = .text e.name := rfl
      cases h : e.isWeak with
      | false =>
        have hname : weakName? (some e) = none := by simp [weakName?, h]
        rw [List.filterMap_cons_none hname]
        simpa [isOfStrength, h] using ih
      | true =>
        have hname : weakName? (some e) = some e.name := by simp [weakName?, h]
        rw [List.filterMap_cons_some hname]
        simpa [isOfStrength, h, hcell] using ih

namespace HasResults

variable {base t : Table} {founds : List (Option Entry)}
  (h : HasResults base t founds resultHeaders)

include h

/-- The rows of a category with a strength have both. -/
theorem kindCounts_eq (c : Category) :
    Summary.kindCounts t (founds.map (isOfStrength true)) (founds.map (isOfStrength false)) c =
      .ok (c, founds.countP (isOfKind c true), founds.countP (isOfKind c false)) := by
  have hboth (b : Bool) (found : Option Entry) :
      (found.any (fun e => [c].contains e.category) && isOfStrength b found) =
        isOfKind c b found := by
    cases found with
    | none => rfl
    | some e => simp [isOfStrength, isOfKind, beq_eq_decide]
  rw [Summary.kindCounts, h.categoryMask_eq [c], Except.map, both_map, both_map, marked_map,
    marked_map]
  simp only [hboth]

/-- The counts of a classified table are those of its outcomes. -/
theorem ofTable_eq : Summary.ofTable t = .ok (.ofOutcomes founds) := by
  have hstrength (b : Bool) : strengthMask t b = .ok (founds.map (isOfStrength b)) :=
    h.strengthMask_eq b
  have hkinds : Category.all.mapM (Summary.kindCounts t (founds.map (isOfStrength true))
      (founds.map (isOfStrength false))) = Except.ok (Summary.ofOutcomes founds).byCategory := by
    rw [funext h.kindCounts_eq]
    exact List.mapM_pure
  have hcolumn : t.column ResultColumn.name = .ok (resultColumn ResultColumn.name founds) :=
    h.column (by decide)
  have hnames : (valueCounts (keep (founds.map (isOfStrength true))
      (resultColumn ResultColumn.name founds))).map (fun count => (count.1.display, count.2)) =
        (Summary.ofOutcomes founds).weakNames := by
    rw [resultColumn, keep_map, map_resultCell_name, valueCounts_texts, asTexts, List.map_map]
    exact List.map_id _
  have hunmatched : marked ((founds.map Option.isSome).map not) = founds.countP Option.isNone := by
    rw [List.map_map, marked_map]
    congr 1
    funext found
    exact Option.not_isSome found
  rw [Summary.ofTable, h.matchedMask_eq, hstrength, hstrength]
  simp only [bind, Except.bind]
  rw [hkinds, hcolumn]
  simp only [pure, Except.pure, hnames, h.rows, hunmatched, marked_map]
  rfl

end HasResults

/-- A table with two names of one number, the first of them in two spellings. -/
def repeatedTable : TextTable where
  headers := ["name"]
  rows := [["sha-1"], ["md5"], ["aes-128"], ["SHA_1"], ["other"], ["MD5-hex"]]
  distinct := by decide
  regular := by decide

end CryptoAudit
