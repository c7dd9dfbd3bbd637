import CryptoAudit.Table.Basic

/-!
# Reading what was written

In a rectangular table every row has a cell under every header. Setting a column keeps a table
rectangular. The column then holds the cells that were set, whether it is new or takes the place of
another, and every other column stays as it was. A regular table is a rectangular one whose headers
are texts, none of them repeated.

## Main definitions

* `Table.IsRectangular`: a cell in every row under each header
* `Table.IsRegular`: distinct texts as headers, with a cell in every row under each
* `TextTable`: regular tables of texts
* `TextTable.column`: the texts under a header
* `markedPlaces`: the places at which a mask is set

## Main results

* `Table.IsRectangular.setColumn`, `Table.HasTextHeaders.setColumn`: setting a column keeps the
  shape of a table
* `Table.IsRectangular.column?_setColumn_self`, `Table.IsRectangular.column?_setColumn_of_ne`: the
  columns after one has been set
* `TextTable.column?_toTable`: the columns of a table of texts
* `keep_map`, `map_some_keep`: what a mask keeps, item by item and place by place
-/

namespace CryptoAudit

/-- A text that is set among other fields is found again, and the others stay as they were. -/
theorem field?_setField_text (key header : String) (v : Value) (fields : List (Value × Value)) :
    field? (Value.text key) (setField (.text header) v fields) =
      if header = key then some v else field? (.text key) fields := by
  split
  · rename_i h
    rw [h]
    exact field?_setField_self (by simp) v fields
  · rename_i h
    -- Values that equal a text are that text, although equality of values is coarser in general.
    refine field?_setField_of_disjoint (by simpa using h) (fun m hm => ?_) v fields
    rw [Value.beq_text_iff.1 hm]
    simpa using h

namespace Table

/-- Every row has a cell under each header. -/
structure IsRectangular (t : Table) : Prop where
  rows : ∀ row ∈ t.rows, row.length = t.headers.length

/-- The headers are distinct texts. -/
def HasTextHeaders (t : Table) : Prop :=
  ∃ names : List String, names.Nodup ∧ t.headers = names.map .text

/-- The headers are distinct texts, and every row has a cell under each of them. -/
structure IsRegular (t : Table) : Prop extends IsRectangular t where
  headers : t.HasTextHeaders

variable {t : Table} {header other : String} {row : List Value}

theorem hasColumn_iff : t.hasColumn header = true ↔ Value.text header ∈ t.headers := by
  simp [hasColumn, Value.beq_text_iff]

theorem isSome_column? : (t.column? header).isSome = t.hasColumn header := by
  rw [column?]
  split <;> simp_all

/-! ### One row -/

section Row

variable (hrow : row.length = t.headers.length) (cells : List Value) (v : Value)

include hrow

theorem keys_fields : (t.fields row).map Prod.fst = t.headers :=
  List.map_fst_zip (Nat.le_of_eq hrow.symm)

/-- A regular row has a cell under every header. -/
theorem isSome_cell? : (t.cell? header row).isSome = t.hasColumn header := by
  rw [cell?, isSome_field?, keys_fields hrow]
  rfl

theorem keys_setField_fields :
    (setField (Value.text header) v (t.fields row)).map Prod.fst =
      (t.setColumn header cells).headers := by
  rw [keys_setField, keys_fields hrow]
  rfl

/-- A row with a cell set has a cell under every header of the table with its column set. -/
theorem length_setCell :
    (t.setCell header row v).length = (t.setColumn header cells).headers.length := by
  rw [← keys_setField_fields hrow cells v, setCell, List.length_map, List.length_map]

theorem fields_setCell :
    (t.setColumn header cells).fields (t.setCell header row v) =
      setField (Value.text header) v (t.fields row) :=
  (List.zip_of_prod (keys_setField_fields hrow cells v) rfl).symm

theorem cell?_setCell_self :
    (t.setColumn header cells).cell? header (t.setCell header row v) = some v := by
  rw [cell?, fields_setCell hrow, field?_setField_text, if_pos rfl]

theorem cell?_setCell_of_ne (hne : header ≠ other) :
    (t.setColumn header cells).cell? other (t.setCell header row v) = t.cell? other row := by
  rw [cell?, fields_setCell hrow, field?_setField_text, if_neg hne]
  rfl

end Row

/-! ### One column -/

/-- The rows of a table with a column set, one by one. -/
theorem getElem?_rows_setColumn {cells : List Value} {i : Nat} {v : Value}
    (hrow : t.rows[i]? = some row) (hv : cells[i]? = some v) :
    (t.setColumn header cells).rows[i]? = some (t.setCell header row v) := by
  simp [Table.setColumn, List.getElem?_zipWith, hrow, hv]

theorem length_rows_setColumn {cells : List Value} (hlen : cells.length = t.rows.length) :
    (t.setColumn header cells).rows.length = t.rows.length := by
  simp [Table.setColumn, hlen]

theorem hasColumn_setColumn (cells : List Value) :
    (t.setColumn header cells).hasColumn header = true := by
  rw [hasColumn_iff, Table.setColumn]
  split
  · rename_i h
    exact hasColumn_iff.1 h
  · exact List.mem_append_right _ (List.mem_singleton_self _)

theorem hasColumn_setColumn_of_ne (hne : header ≠ other) (cells : List Value) :
    (t.setColumn header cells).hasColumn other = t.hasColumn other := by
  rw [Bool.eq_iff_iff, hasColumn_iff, hasColumn_iff, Table.setColumn]
  split
  · rfl
  · simp [hne.symm]

theorem length_of_column? {cells : List Value} (h : t.column? header = some cells) :
    cells.length = t.rows.length := by
  rw [column?] at h
  split at h
  · rw [← Option.some.inj h, List.length_map]
  · cases h

namespace IsRectangular

variable {cells : List Value}

/-- Setting a column keeps a table rectangular. -/
theorem setColumn (h : t.IsRectangular) (header : String) (cells : List Value) :
    (t.setColumn header cells).IsRectangular := by
  refine ⟨fun row hmem => ?_⟩
  obtain ⟨i, hi⟩ := List.mem_iff_getElem?.1 hmem
  obtain ⟨old, v, hold, -, rfl⟩ := List.getElem?_zipWith_eq_some.1 hi
  exact length_setCell (h.rows old (List.mem_of_getElem? hold)) cells v

/-- The column that was set holds its new cells. -/
theorem column?_setColumn_self (h : t.IsRectangular) (hlen : cells.length = t.rows.length) :
    (t.setColumn header cells).column? header = some cells := by
  rw [column?, if_pos (hasColumn_setColumn cells)]
  congr 1
  apply List.ext_getElem?
  intro i
  rw [List.getElem?_map]
  cases hv : cells[i]? with
  | none => simp [Table.setColumn, List.getElem?_zipWith, hv]
  | some v =>
    have hi : i < t.rows.length := hlen ▸ (List.getElem?_eq_some_iff.1 hv).1
    have hrow : t.rows[i]? = some t.rows[i] := List.getElem?_eq_getElem hi
    rw [getElem?_rows_setColumn hrow hv, Option.map_some,
      cell?_setCell_self (h.rows _ (List.getElem_mem hi))]
    rfl

/-- Every other column stays as it was. -/
theorem column?_setColumn_of_ne (h : t.IsRectangular) (hlen : cells.length = t.rows.length)
    (hne : header ≠ other) : (t.setColumn header cells).column? other = t.column? other := by
  rw [column?, column?, hasColumn_setColumn_of_ne hne]
  congr 2
  apply List.ext_getElem?
  intro i
  rw [List.getElem?_map, List.getElem?_map]
  cases hrow : t.rows[i]? with
  | none => simp [Table.setColumn, List.getElem?_zipWith, hrow]
  | some row =>
    have hi : i < cells.length := hlen ▸ (List.getElem?_eq_some_iff.1 hrow).1
    have hv : cells[i]? = some cells[i] := List.getElem?_eq_getElem hi
    rw [getElem?_rows_setColumn hrow hv, Option.map_some, Option.map_some,
      cell?_setCell_of_ne (h.rows row (List.mem_of_getElem? hrow)) cells _ hne]

/-- A row has a cell under every header, and it is the one that the column has for the row. -/
theorem cell?_eq_some (h : t.IsRectangular) (hcol : t.column? header = some cells) {i : Nat}
    {v : Value} (hrow : t.rows[i]? = some row) (hv : cells[i]? = some v) :
    t.cell? header row = some v := by
  rw [column?] at hcol
  split at hcol
  · rename_i hhas
    have hsome : (t.cell? header row).isSome = true := by
      rw [isSome_cell? (h.rows row (List.mem_of_getElem? hrow)), hhas]
    obtain ⟨w, hw⟩ := Option.isSome_iff_exists.1 hsome
    rw [← Option.some.inj hcol, List.getElem?_map, hrow, Option.map_some, hw] at hv
    rw [hw]
    exact hv
  · cases hcol

end IsRectangular

/-- Setting a column keeps the headers distinct texts. -/
theorem HasTextHeaders.setColumn (h : t.HasTextHeaders) (header : String) (cells : List Value) :
    (t.setColumn header cells).HasTextHeaders := by
  obtain ⟨names, distinct, hnames⟩ := h
  by_cases hcol : t.hasColumn header
  · exact ⟨names, distinct, by simp [Table.setColumn, hcol, hnames]⟩
  · -- The column is new, so its header repeats none.
    refine ⟨names ++ [header], ?_, by simp [Table.setColumn, hcol, hnames]⟩
    have hnew : header ∉ names := by simpa [hasColumn_iff, hnames] using hcol
    rw [List.nodup_append]
    refine ⟨distinct, List.pairwise_singleton _ _, ?_⟩
    rintro name hname _ hlast rfl
    exact hnew (List.mem_singleton.1 hlast ▸ hname)

end Table

/-! ### Tables of texts -/

/-- A table of texts with distinct headers, in which every row has a text under each. -/
structure TextTable where
  headers : List String
  rows : List (List String)
  distinct : headers.Nodup
  regular : ∀ row ∈ rows, row.length = headers.length

namespace TextTable

variable (t : TextTable) {header : String}

/-- The table whose cells are the texts. -/
def toTable : Table :=
  .ofText t.headers t.rows

/-- The text of a row under a header. -/
def text (header : String) (row : List String) : String :=
  (field? header (t.headers.zip row)).getD ""

/-- The texts under a header, one for each row. -/
def column (header : String) : List String :=
  t.rows.map (t.text header)

theorem isRegular_toTable : t.toTable.IsRegular where
  headers := ⟨t.headers, t.distinct, rfl⟩
  rows := by
    simp only [toTable, Table.ofText, List.mem_map, forall_exists_index, and_imp,
      forall_apply_eq_imp_iff₂, List.length_map]
    exact t.regular

/-- Keys and values that are texts are looked up as texts. -/
theorem field?_zip_text (header : String) (headers row : List String) :
    field? (Value.text header) ((headers.map Value.text).zip (row.map Value.text)) =
      (field? header (headers.zip row)).map Value.text := by
  induction headers generalizing row with
  | nil => rfl
  | cons h headers ih =>
    cases row with
    | nil => rfl
    | cons s row =>
      simp only [List.map_cons, List.zip_cons_cons, field?, Value.equals_text, ih]
      split <;> rfl

theorem hasColumn_toTable_iff : t.toTable.hasColumn header = true ↔ header ∈ t.headers := by
  simp [Table.hasColumn_iff, toTable, Table.ofText]

/-- A column of a table of texts holds the texts. -/
theorem column?_toTable (h : header ∈ t.headers) :
    t.toTable.column? header = some ((t.column header).map .text) := by
  have hcol : t.toTable.hasColumn header = true := t.hasColumn_toTable_iff.2 h
  rw [Table.column?, if_pos hcol, toTable, Table.ofText, column, List.map_map, List.map_map]
  congr 1
  refine List.map_congr_left fun row hrow => ?_
  have hsome : (field? header (t.headers.zip row)).isSome = true := by
    rw [isSome_field?, List.map_fst_zip (Nat.le_of_eq (t.regular row hrow).symm)]
    simpa using h
  obtain ⟨s, hs⟩ := Option.isSome_iff_exists.1 hsome
  simp [Table.cell?, Table.fields, field?_zip_text, text, hs]

end TextTable

/-! ### Masks -/

/-- The places at which a mask is set, in ascending order. -/
def markedPlaces (mask : List Bool) : List Nat :=
  (List.range mask.length).filter fun i => mask[i]? = some true

theorem mem_markedPlaces {mask : List Bool} {i : Nat} :
    i ∈ markedPlaces mask ↔ mask[i]? = some true := by
  simp only [markedPlaces, List.mem_filter, List.mem_range, decide_eq_true_eq,
    and_iff_right_iff_imp]
  exact fun h => (List.getElem?_eq_some_iff.1 h).1

theorem pairwise_markedPlaces (mask : List Bool) : (markedPlaces mask).Pairwise (· < ·) :=
  List.pairwise_lt_range.filter _

theorem markedPlaces_cons (b : Bool) (mask : List Bool) :
    markedPlaces (b :: mask) = (if b then [0] else []) ++ (markedPlaces mask).map (· + 1) := by
  rw [markedPlaces, List.length_cons, List.range_succ_eq_map, List.filter_cons, List.filter_map]
  cases b <;> rfl

/-- A mask that comes from the list keeps the items that it came from. -/
theorem keep_map {α β : Type} (p : α → Bool) (f : α → β) (xs : List α) :
    keep (xs.map p) (xs.map f) = (xs.filter p).map f := by
  induction xs with
  | nil => rfl
  | cons x xs ih =>
    cases h : p x <;> simp_all [keep]

/-- What a mask keeps stands at the places at which it is set. -/
theorem map_some_keep {α : Type} {mask : List Bool} {xs : List α}
    (hlen : mask.length = xs.length) :
    (keep mask xs).map some = (markedPlaces mask).map (xs[·]?) := by
  induction mask generalizing xs with
  | nil => simp_all [keep, markedPlaces]
  | cons b mask ih =>
    cases xs with
    | nil => cases hlen
    | cons x xs =>
      have := ih (Nat.succ.inj hlen)
      rw [markedPlaces_cons]
      cases b <;> simp_all [keep]

end CryptoAudit
