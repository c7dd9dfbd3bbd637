import CryptoAudit.Proofs.Outcome
import CryptoAudit.Proofs.Table.Columns
import CryptoAudit.Table.Read
import Mathlib.Data.List.Nodup

/-!
# Tables read from files

A table that was read from a file is a sheet. A comma-separated file gives a table of texts. Its
headers are made distinct one by one: a header that stands in a column before, or that was numbered
before, gets a number that makes it unlike all others. Its rows are cut and filled to the number of
headers. A workbook gives a sheet if its reader is lawful.

## Main definitions

* `Settled`: the headers of some columns are met and distinct

## Main results

* `variant_notMem`: a numbered header is new
* `Settled.keep`, `Settled.rename`, `Settled.distinguish`: one more column is settled
* `nodup_distinctHeaders`: headers made distinct are distinct
* `Table.exists_textTable_of_ofRecords`: a table made of records is a table of texts
* `Table.isSheet_of_read`: a table read from a file is a sheet
-/

namespace CryptoAudit

/-! ### Numbered headers -/

/-- A number is told by its digits. -/
theorem decimal_natCast_injective {m n : Nat} (h : decimal (m : Int) = decimal (n : Int)) :
    m = n := by
  have nonneg (k : Nat) : ¬(k : Int) < 0 := Int.not_lt.2 (Int.natCast_nonneg k)
  simp only [decimal, nonneg, if_false, Int.natAbs_natCast, String.ofList_inj] at h
  simpa using congrArg (fun digits => Nat.ofDigitChars 10 digits 0) h

/-- A name with a number. -/
def numbered (name : String) (k : Nat) : String :=
  name ++ "." ++ decimal k

theorem numbered_injective (name : String) : Function.Injective (numbered name) := by
  intro j k h
  exact decimal_natCast_injective ((String.append_right_inj _).1 h)

/-- If the variant is taken, so are all of those that were tried. -/
theorem numbered_mem_of_variant_mem {taken : List String} {name : String} {fuel k : Nat}
    (h : (variant taken name fuel k).1 ∈ taken) : ∀ j ≤ fuel, numbered name (k + j) ∈ taken := by
  induction fuel generalizing k with
  | zero =>
    intro j hj
    obtain rfl : j = 0 := Nat.le_zero.1 hj
    exact h
  | succ fuel ih =>
    simp only [variant] at h
    split at h
    · rename_i htaken
      intro j hj
      cases j with
      | zero => exact List.contains_iff_mem.1 htaken
      | succ j =>
        have := ih h j (Nat.le_of_succ_le_succ hj)
        rwa [Nat.add_right_comm] at this
    · rename_i hfree
      exact absurd (List.contains_iff_mem.2 h) hfree

/-- With as many tries as there are names a variant is found that is none of them. -/
theorem variant_notMem (taken : List String) (name : String) (k : Nat) :
    (variant taken name taken.length k).1 ∉ taken := by
  -- Otherwise one variant more than there are names would be among them.
  intro hmem
  have htaken := numbered_mem_of_variant_mem hmem
  have hdistinct : (List.range (taken.length + 1)).map (fun j => numbered name (k + j)) |>.Nodup :=
    List.nodup_range.map fun i j hij => Nat.add_left_cancel (numbered_injective name hij)
  have hsubset : (List.range (taken.length + 1)).map (fun j => numbered name (k + j)) ⊆ taken := by
    intro other hother
    obtain ⟨j, hj, rfl⟩ := List.mem_map.1 hother
    exact htaken j (Nat.le_of_lt_succ (List.mem_range.1 hj))
  have hlength := hdistinct.length_le_of_subset hsubset
  rw [List.length_map, List.length_range] at hlength
  exact Nat.not_succ_le_self _ hlength

/-! ### Headers made distinct -/

/-- The headers of some columns are all met, and no two of these columns have the same. -/
structure Settled (done : List Nat) (naming : Naming) : Prop where
  met : ∀ i ∈ done, ∀ name, naming.1[i]? = some name → (field? name naming.2).isSome = true
  distinct : ∀ i ∈ done, ∀ j ∈ done, ∀ name, naming.1[i]? = some name →
    naming.1[j]? = some name → i = j

theorem isSome_field?_setField (key other : String) (k : Nat) (counts : List (String × Nat)) :
    (field? other (setField key k counts)).isSome =
      (key == other || (field? other counts).isSome) := by
  by_cases h : key = other
  · subst h
    rw [field?_setField_self (beq_self_eq_true key), beq_self_eq_true]
    rfl
  · rw [field?_setField_of_ne h, beq_false_of_ne h, Bool.false_or]

theorem distinguish_of_new {names : List String} {counts : List (String × Nat)} {i : Nat}
    (h : field? (names.getD i "") counts = none) :
    distinguish (names, counts) i = (names, setField (names.getD i "") 1 counts) := by
  simp only [distinguish, h]

theorem distinguish_of_met {names : List String} {counts : List (String × Nat)} {i k : Nat}
    (h : field? (names.getD i "") counts = some k) :
    distinguish (names, counts) i =
      (names.set i (variant names (names.getD i "") names.length k).1,
        setField (variant names (names.getD i "") names.length k).1 1 (setField (names.getD i "")
          ((variant names (names.getD i "") names.length k).2 + 1) counts)) := by
  simp only [distinguish, h]

theorem length_distinguish (naming : Naming) (i : Nat) :
    (distinguish naming i).1.length = naming.1.length := by
  obtain ⟨names, counts⟩ := naming
  cases h : field? (names.getD i "") counts with
  | none => rw [distinguish_of_new h]
  | some k => rw [distinguish_of_met h, List.length_set]

/-- One more column whose header was not met: it keeps the header. -/
theorem Settled.keep {done : List Nat} {names : List String} {counts : List (String × Nat)}
    (h : Settled done (names, counts)) {i : Nat} {name : String} (hname : names[i]? = some name)
    (hmet : field? name counts = none) : Settled (i :: done) (names, setField name 1 counts) := by
  have hnew : ∀ j ∈ done, names[j]? ≠ some name := by
    intro j hj hsame
    have := h.met j hj name hsame
    rw [hmet] at this
    cases this
  constructor
  · intro j hj other hother
    rw [isSome_field?_setField]
    rcases List.mem_cons.1 hj with rfl | hj
    · rw [hname, Option.some_inj] at hother
      rw [beq_iff_eq.2 hother, Bool.true_or]
    · rw [h.met j hj other hother, Bool.or_true]
  · intro j hj l hl other hother hother'
    rcases List.mem_cons.1 hj with rfl | hjdone <;> rcases List.mem_cons.1 hl with rfl | hldone
    · rfl
    · exact absurd (hother'.trans (hother.symm.trans hname)) (hnew l hldone)
    · exact absurd (hother.trans (hother'.symm.trans hname)) (hnew j hjdone)
    · exact h.distinct j hjdone l hldone other hother hother'

/-- One more column whose header was met: it gets one that no column has. -/
theorem Settled.rename {done : List Nat} {names : List String} {counts : List (String × Nat)}
    (h : Settled done (names, counts)) {i : Nat} (hi : i < names.length) {fresh : String}
    (hfresh : fresh ∉ names) (name : String) (k : Nat) :
    Settled (i :: done) (names.set i fresh, setField fresh 1 (setField name k counts)) := by
  have hself : (names.set i fresh)[i]? = some fresh := List.getElem?_set_self hi
  have hother {j : Nat} (hij : i ≠ j) : (names.set i fresh)[j]? = names[j]? :=
    List.getElem?_set_ne hij
  have hnew {j : Nat} (hij : i ≠ j) : (names.set i fresh)[j]? ≠ some fresh := by
    rw [hother hij]
    exact fun hsame => hfresh (List.mem_of_getElem? hsame)
  constructor
  · intro j hj other hj'
    rw [isSome_field?_setField, isSome_field?_setField]
    by_cases hij : i = j
    · subst hij
      rw [hself, Option.some_inj] at hj'
      rw [beq_iff_eq.2 hj', Bool.true_or]
    · rw [hother hij] at hj'
      rw [h.met j ((List.mem_cons.1 hj).resolve_left (Ne.symm hij)) other hj', Bool.or_true,
        Bool.or_true]
  · intro j hj l hl other hj' hl'
    by_cases hij : i = j
    · subst hij
      rw [hself, Option.some_inj] at hj'
      by_contra hil
      exact hnew hil (hj' ▸ hl')
    · by_cases hil : i = l
      · subst hil
        rw [hself, Option.some_inj] at hl'
        exact absurd (hl' ▸ hj') (hnew hij)
      · rw [hother hij] at hj'
        rw [hother hil] at hl'
        exact h.distinct j ((List.mem_cons.1 hj).resolve_left (Ne.symm hij)) l
          ((List.mem_cons.1 hl).resolve_left (Ne.symm hil)) other hj' hl'

/-- One more column is settled: its header is new already, or gets a new one. -/
theorem Settled.distinguish {done : List Nat} {naming : Naming} (h : Settled done naming)
    {i : Nat} (hi : i < naming.1.length) : Settled (i :: done) (distinguish naming i) := by
  obtain ⟨names, counts⟩ := naming
  cases hmet : field? (names.getD i "") counts with
  | none =>
    have hname : names[i]? = some (names.getD i "") := by
      rw [List.getD, List.getElem?_eq_getElem hi, Option.getD_some]
    rw [distinguish_of_new hmet]
    exact h.keep hname hmet
  | some k =>
    rw [distinguish_of_met hmet]
    exact h.rename hi (variant_notMem names (names.getD i "") k) _ _

/-- A run over some columns settles their headers. -/
theorem Settled.foldl {done : List Nat} {naming : Naming} (h : Settled done naming)
    (order : List Nat) (horder : ∀ i ∈ order, i < naming.1.length) :
    (order.foldl CryptoAudit.distinguish naming).1.length = naming.1.length ∧
      Settled (order.reverse ++ done) (order.foldl CryptoAudit.distinguish naming) := by
  induction order generalizing done naming with
  | nil => exact ⟨rfl, h⟩
  | cons i order ih =>
    have hi := h.distinguish (horder i List.mem_cons_self)
    have hlength := length_distinguish naming i
    obtain ⟨hrun, hsettled⟩ := ih hi fun j hj => hlength ▸ horder j (List.mem_cons_of_mem i hj)
    refine ⟨hrun.trans hlength, ?_⟩
    rw [List.reverse_cons, List.append_assoc]
    exact hsettled

/-- Every column has its turn, those that were given a header before those that were not. -/
theorem mem_turns_iff {headers : List String} {i : Nat} :
    i ∈ ((headers.zipIdx.filter (·.1 ≠ "")) ++ (headers.zipIdx.filter (·.1 = ""))).map (·.2) ↔
      i < headers.length := by
  constructor
  · intro hi
    obtain ⟨⟨header, j⟩, hmem, rfl⟩ := List.mem_map.1 hi
    have hplace : (header, j) ∈ headers.zipIdx := by
      rcases List.mem_append.1 hmem with hmem | hmem <;> exact (List.mem_filter.1 hmem).1
    exact List.snd_lt_of_mem_zipIdx hplace
  · intro hi
    have hplace : (headers[i], i) ∈ headers.zipIdx :=
      List.mk_mem_zipIdx_iff_getElem?.2 (List.getElem?_eq_getElem hi)
    refine List.mem_map.2 ⟨(headers[i], i), List.mem_append.2 ?_, rfl⟩
    by_cases hempty : headers[i] = ""
    · exact .inr (List.mem_filter.2 ⟨hplace, decide_eq_true hempty⟩)
    · exact .inl (List.mem_filter.2 ⟨hplace, decide_eq_true hempty⟩)

/-- Headers made distinct are distinct, and as many as there were. -/
theorem nodup_distinctHeaders (headers : List String) :
    (distinctHeaders headers).length = headers.length ∧ (distinctHeaders headers).Nodup := by
  let named := headers.zipIdx.map fun place => headerOr place.2 place.1
  have hnamed : named.length = headers.length := by simp [named]
  have hstart : Settled [] (named, []) := ⟨fun _ h => absurd h List.not_mem_nil,
    fun _ h => absurd h List.not_mem_nil⟩
  obtain ⟨hlength, hsettled⟩ := hstart.foldl _ fun i hi => hnamed.symm ▸ mem_turns_iff.1 hi
  refine ⟨hlength.trans hnamed, List.nodup_iff_injective_getElem.2 ?_⟩
  intro i j hij
  have hheader (k : Fin (distinctHeaders headers).length) :
      (distinctHeaders headers)[k.1]? = some (distinctHeaders headers)[k.1] :=
    List.getElem?_eq_getElem k.2
  have hdone (k : Fin (distinctHeaders headers).length) : k.1 < headers.length :=
    Nat.lt_of_lt_of_eq k.2 (hlength.trans hnamed)
  refine Fin.ext (hsettled.distinct i ?_ j ?_ _ (hheader i)
    ((hheader j).trans (congrArg some hij.symm)))
  · rw [List.append_nil, List.mem_reverse, mem_turns_iff]
    exact hdone i
  · rw [List.append_nil, List.mem_reverse, mem_turns_iff]
    exact hdone j

/-! ### Rows -/

theorem length_le_of_checkRows {width : Nat} {rows : List (Nat × List String)}
    {checked : List (List String)} (h : checkRows width rows = .ok checked) :
    ∀ row ∈ checked, row.length ≤ width := by
  induction rows generalizing checked with
  | nil =>
    cases h
    exact fun _ hrow => absurd hrow List.not_mem_nil
  | cons numbered rows ih =>
    obtain ⟨line, cells⟩ := numbered
    simp only [checkRows] at h
    split at h
    · cases h
    · rename_i hfits
      cases hrows : checkRows width rows with
      | error e =>
        rw [hrows] at h
        cases h
      | ok rest =>
        rw [hrows] at h
        cases h
        intro row hrow
        rcases List.mem_cons.1 hrow with rfl | hrow
        · exact Nat.le_of_not_lt hfits
        · exact ih hrows row hrow

/-- A row that is not too long is cut and filled to one length. -/
theorem length_fitRow {width extra : Nat} {cells : List String} (h : cells.length ≤ width) :
    (fitRow width extra cells).length = width - extra := by
  simp only [fitRow, List.length_drop, List.length_append, List.length_replicate]
  omega

namespace Table

/-- Rows that were cut and filled to the number of headers make a table of texts. -/
theorem exists_textTable_ofText {headers : List String} {rows : List (List String)} {width : Nat}
    (hwidth : headers.length ≤ width) (hrows : ∀ row ∈ rows, row.length ≤ width) :
    ∃ texts : TextTable, ofText (distinctHeaders headers)
      (rows.map (fitRow width (width - headers.length))) = texts.toTable := by
  obtain ⟨hlength, hdistinct⟩ := nodup_distinctHeaders headers
  refine ⟨⟨distinctHeaders headers, _, hdistinct, ?_⟩, rfl⟩
  intro row hrow
  obtain ⟨cells, hcells, rfl⟩ := List.mem_map.1 hrow
  rw [length_fitRow (hrows cells hcells), hlength]
  omega

/-- A table made of records is a table of texts. -/
theorem exists_textTable_of_ofRecords {records : Csv.Records} {t : Table}
    (h : ofRecords records = .ok t) : ∃ texts : TextTable, t = texts.toTable := by
  unfold ofRecords at h
  obtain ⟨rows, hrows, h⟩ := bind_eq_ok_iff.1 h
  have htexts := exists_textTable_ofText (Nat.le_max_left _ _) (length_le_of_checkRows hrows)
  dsimp only at h
  split at h
  · obtain ⟨_, hthrow, -⟩ := bind_eq_ok_iff.1 h
    exact absurd hthrow throw_ne_ok
  · split at h
    · obtain ⟨_, hthrow, -⟩ := bind_eq_ok_iff.1 h
      exact absurd hthrow throw_ne_ok
    · cases h
      exact htexts

end Table

/-- A table of texts is a sheet without errors. -/
theorem TextTable.isSheet_toTable (t : TextTable) : t.toTable.IsSheet where
  distinct := by
    have hne : t.headers.Pairwise fun header other => (header == other) = false :=
      t.distinct.imp beq_false_of_ne
    simpa only [toTable, Table.ofText, List.pairwise_map, Value.equals_text] using hne
  regular := t.isRegular_toTable.rows
  texts := by
    simp only [toTable, Table.ofText, List.forall_mem_map]
    exact fun _ _ s _ => .inl ⟨s, rfl⟩

/-- A table that was read from a file is a sheet. -/
theorem Table.isSheet_of_read {files : Files} {path : Path} {workbooks : WorkbookReader}
    {t : Table} (hworkbooks : workbooks.Lawful) (h : Table.read files path workbooks = .ok t) :
    t.IsSheet := by
  unfold Table.read at h
  obtain ⟨isThere, -, h⟩ := bind_eq_ok_iff.1 h
  dsimp only at h
  split at h
  · obtain ⟨_, hthrow, -⟩ := bind_eq_ok_iff.1 h
    exact absurd hthrow throw_ne_ok
  · split at h
    · obtain ⟨content, -, h⟩ := bind_eq_ok_iff.1 h
      exact hworkbooks content t (mapError_eq_ok_iff.1 h)
    · split at h
      · obtain ⟨text, -, h⟩ := bind_eq_ok_iff.1 h
        obtain ⟨texts, rfl⟩ := exists_textTable_of_ofRecords h
        exact texts.isSheet_toTable
      · exact absurd h throw_ne_ok

end CryptoAudit
