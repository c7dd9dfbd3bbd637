import CryptoAudit.Proofs.Outcome
import CryptoAudit.Proofs.Scan.Selection
import CryptoAudit.Settings.Config

/-!
# Recorded findings

Each finding becomes one record. The fields of what the name denotes are set first, and then the
location columns, each under its own header. Fields that have other names stay as they are, but a
field that has the header of a location column then holds the text of that column.

## Main definitions

* `findingFields`, `nameFields`: the fields of a record that tell what a name denotes, and those
  together with the name
* `IsRecordOf`: a value is the record of a row

## Main results

* `field?_setAll`: the fields of a record after the location columns have been set
* `HasResults.exists_findingRecord_eq_ok`: one record
* `HasResults.exists_records_eq_ok`: the records of the reported rows, from one record
* `findingRecords_classifyTable`: the records of all findings
* `findingRecords_category`: a location column that hides the category
-/

namespace CryptoAudit

/-! ### Fields that are set into others -/

/-- Location columns take the place of the fields that have their headers, and of no others. -/
theorem field?_setAll {cell : String → Option Value} {headers : List String}
    {new : List (Value × Value)}
    (h : List.Forall₂ (fun header field => field.1 = .text header ∧ cell header = some field.2)
      headers new) (key : String) (fields : List (Value × Value)) :
    field? (Value.text key) (setAll fields new) =
      if key ∈ headers then cell key else field? (.text key) fields := by
  -- By induction on the location columns, for any fields that are set so far. A header that occurs
  -- twice has one cell, so it does not matter which of the two comes last.
  induction h generalizing fields with
  | nil => rfl
  | @cons header field headers new hfield _ ih =>
    obtain ⟨k, v⟩ := field
    obtain ⟨rfl, hcell⟩ := hfield
    have hstep : setAll fields ((.text header, v) :: new) =
        setAll (setField (.text header) v fields) new := rfl
    rw [hstep, ih, field?_setField_text]
    by_cases hkey : header = key
    · subst hkey
      simp [hcell]
    · simp [hkey, Ne.symm hkey]

/-- The fields of a record that tell what a name denotes. -/
def findingFields (e : Entry) : List (String × Value) :=
  [("category", .text e.category.name), ("canonical_name", .text e.name),
    ("is_weak", .bool e.isWeak), ("message", .text ("Use of " ++ e.describe))]

/-- The fields of a record before its location columns: a name and what it denotes. -/
def nameFields (name : Value) (e : Entry) : List (Value × Value) :=
  (.text "name", name) :: (findingFields e).map fun field => (.text field.1, field.2)

/-! ### Records of a classified table -/

/-- The columns of a scan are those of the settings, less the location columns that the table does
not have. -/
theorem ScanColumns.resolve_eq_ok_iff {columns : Columns} {t : Table} {found : ScanColumns} :
    (resolve columns t).outcome = .ok found ↔
      t.hasColumn columns.name = true ∧
        found = ⟨columns.name, columns.locations.filter t.hasColumn⟩ := by
  unfold resolve
  split
  · rename_i h
    simp only [h, Except.ok.injEq, true_and]
    exact eq_comm
  · simp_all [Log.Logged.fail]

namespace HasResults

variable {base t : Table} {founds : List (Option Entry)} {row : List Value}
  (h : HasResults base t founds resultHeaders)

include h

/-- A classified table has all columns that it had before, so a row of it has their cells. -/
theorem exists_cell?_eq_some {header : String} (hbase : base.hasColumn header = true)
    (hrow : row ∈ t.rows) : ∃ v, t.cell? header row = some v := by
  have hcolumn : t.hasColumn header = true := by
    -- The column may have been replaced by a result column, but then it is there again.
    rw [← Table.isSome_column?]
    by_cases hmem : header ∈ resultHeaders
    · rw [h.columns header hmem]
      rfl
    · rw [h.others header hmem, Table.isSome_column?, hbase]
  rw [← Option.isSome_iff_exists, Table.isSome_cell? (h.rectangular.rows row hrow)]
  exact hcolumn

/-- The fields of a row with an entry before its location columns, from its name cell. -/
theorem baseFields_eq {column : String} {name : Value} (hname : t.cell? column row = some name)
    {i : Nat} {e : Entry} (hrow : t.rows[i]? = some row) (hfound : founds[i]? = some (some e)) :
    baseFields t column row = .ok (nameFields name e) := by
  have hcells (header : String) (hmem : header ∈ resultHeaders) :
      t.cell header row = .ok (resultCell header (some e)) := by
    rw [Table.cell, h.cell?_eq_some hmem hrow hfound]
  rw [baseFields, Table.cell, hname, hcells _ (by decide), hcells _ (by decide),
    hcells _ (by decide), hcells _ (by decide)]
  rfl

/-- The row of an entry has all the fields that tell what its name denotes. -/
theorem exists_baseFields_eq_ok {column : String} (hcolumn : base.hasColumn column = true) {i : Nat}
    {e : Entry} (hrow : t.rows[i]? = some row) (hfound : founds[i]? = some (some e)) :
    ∃ fields, baseFields t column row = .ok fields ∧
      ∀ key v, (key, v) ∈ findingFields e → field? (.text key) fields = some v := by
  obtain ⟨name, hname⟩ := h.exists_cell?_eq_some hcolumn (List.mem_of_getElem? hrow)
  refine ⟨_, h.baseFields_eq hname hrow hfound, ?_⟩
  intro key v hmem
  simp only [findingFields, List.mem_cons, Prod.mk.injEq, List.not_mem_nil, or_false] at hmem
  rcases hmem with ⟨rfl, rfl⟩ | ⟨rfl, rfl⟩ | ⟨rfl, rfl⟩ | ⟨rfl, rfl⟩ <;>
    simp [nameFields, findingFields, field?]

/-- A row with an entry becomes a record. -/
theorem exists_findingRecord_eq_ok {columns : ScanColumns}
    (hname : base.hasColumn columns.name = true)
    (hlocations : ∀ header ∈ columns.locations, base.hasColumn header = true) {i : Nat}
    {e : Entry} (hrow : t.rows[i]? = some row) (hfound : founds[i]? = some (some e)) :
    ∃ fields, findingRecord t columns row = .ok fields ∧
      ∀ key v, (key, v) ∈ findingFields e → field? (.text key) fields =
        if key ∈ columns.locations then t.cell? key row else some v := by
  obtain ⟨fields, hfields, hkeys⟩ := h.exists_baseFields_eq_ok hname hrow hfound
  have hlocated : List.Forall₂ (fun header other => header = other ∧ base.hasColumn header = true)
      columns.locations columns.locations :=
    List.forall₂_same.2 fun header hmem => ⟨rfl, hlocations header hmem⟩
  have hcells : ∀ header other, header = other ∧ base.hasColumn header = true →
      ∃ field, ((t.cell other row).map fun v => (Value.text other, v)) = .ok field ∧
        field.1 = .text header ∧ t.cell? header row = some field.2 := by
    rintro header _ ⟨rfl, hheader⟩
    obtain ⟨v, hv⟩ := h.exists_cell?_eq_some hheader (List.mem_of_getElem? hrow)
    refine ⟨(.text header, v), ?_, rfl, hv⟩
    rw [Table.cell, hv]
    rfl
  obtain ⟨new, hnew, hset⟩ := exists_mapM_eq_ok hcells hlocated
  refine ⟨setAll fields new, ?_, ?_⟩
  · rw [findingRecord, hfields, locationFields, hnew]
    rfl
  · intro key v hmem
    rw [field?_setAll hset, hkeys key v hmem]

end HasResults

/-! ### Records of the reported rows -/

/-- What a mask keeps, each with its place. -/
theorem forall₂_keep {α : Type} {mask : List Bool} {xs : List α}
    (hlen : mask.length = xs.length) :
    List.Forall₂ (fun i x => xs[i]? = some x) (markedPlaces mask) (keep mask xs) := by
  have hsame : List.Forall₂ (· = ·) ((markedPlaces mask).map (xs[·]?))
      ((keep mask xs).map some) := by
    rw [map_some_keep hlen]
    exact List.forall₂_refl _
  rw [List.forall₂_map_left_iff, List.forall₂_map_right_iff] at hsame
  exact hsame

/-- If every row with an entry becomes a record of some kind, the reported rows become records of
this kind, in their order. -/
theorem HasResults.exists_records_eq_ok {base t : Table} {founds : List (Option Entry)}
    (h : HasResults base t founds resultHeaders) (columns : ScanColumns) (weakOnly : Bool)
    (categories : Option (List Category)) {IsRecord : Nat → Value → Prop}
    (step : ∀ i row e, t.rows[i]? = some row → founds[i]? = some (some e) →
      ∃ fields, findingRecord t columns row = .ok fields ∧ IsRecord i (.map fields)) :
    ∃ records, findingRecords (t.select (founds.map (isReported weakOnly categories))) columns =
        .ok records ∧
      List.Forall₂ IsRecord (markedPlaces (founds.map (isReported weakOnly categories)))
        records := by
  let mask := founds.map (isReported weakOnly categories)
  have hlen : mask.length = t.rows.length := by rw [List.length_map, h.rows]
  have hrows : List.Forall₂ (fun i row => i ∈ markedPlaces mask ∧ t.rows[i]? = some row)
      (markedPlaces mask) (t.select mask).rows :=
    (List.forall₂_and_left _ _).2 ⟨fun _ hi => hi, forall₂_keep hlen⟩
  refine exists_mapM_eq_ok ?_ hrows
  rintro i row ⟨hi, hrow⟩
  rw [mem_markedPlaces, List.getElem?_map, Option.map_eq_some_iff] at hi
  obtain ⟨found, hfound, hreported⟩ := hi
  obtain ⟨e, rfl, -⟩ := isReported_eq_true_iff.1 hreported
  obtain ⟨fields, hfields, hrecord⟩ := step i row e hrow hfound
  have hselected : findingRecord (t.select mask) columns row = .ok fields := hfields
  refine ⟨.map fields, ?_, hrecord⟩
  rw [hselected]
  rfl

/-! ### Records of a table of texts -/

/-- No field that tells what a name denotes has the header of a result column. -/
theorem notMem_resultHeaders {e : Entry} {key : String} {v : Value}
    (h : (key, v) ∈ findingFields e) : key ∉ resultHeaders := by
  have hnew : ∀ key ∈ ["category", "canonical_name", "is_weak", "message"],
      key ∉ resultHeaders := by decide
  exact hnew key (List.mem_map_of_mem (f := Prod.fst) h)

/-- A value is the record of a row of a table: each field that tells what the name denotes is that
of the entry, unless a location column has its header. Then it is the text of that column. -/
def IsRecordOf (t : TextTable) (columns : ScanColumns) (e : Entry) (i : Nat) (record : Value) :
    Prop :=
  ∃ fields, record = .map fields ∧ ∀ key v, (key, v) ∈ findingFields e →
    field? (.text key) fields =
      if key ∈ columns.locations then ((t.column key)[i]?).map .text else some v

section Texts

variable {t : TextTable} {out : Table} {founds : List (Option Entry)}
  (h : HasResults t.toTable out founds resultHeaders)

include h

/-- Columns that are not result columns keep their texts. -/
theorem HasResults.cell?_eq_text {header : String} (hnew : header ∉ resultHeaders)
    (hcol : header ∈ t.headers) {i : Nat} {row : List Value} (hrow : out.rows[i]? = some row) :
    out.cell? header row = ((t.column header)[i]?).map .text := by
  have hcolumn : out.column? header = some ((t.column header).map .text) := by
    rw [h.others header hnew, t.column?_toTable hcol]
  have hi : i < ((t.column header).map Value.text).length := by
    rw [Table.length_of_column? hcolumn]
    exact (List.getElem?_eq_some_iff.1 hrow).1
  rw [h.rectangular.cell?_eq_some hcolumn hrow (List.getElem?_eq_getElem hi), ← List.getElem?_map,
    List.getElem?_eq_getElem hi]

/-- The reported rows become records, in their order. -/
theorem HasResults.exists_findingRecords_eq_ok (columns : ScanColumns)
    (hname : columns.name ∈ t.headers)
    (hlocations : ∀ header ∈ columns.locations, header ∈ t.headers) (weakOnly : Bool)
    (categories : Option (List Category)) :
    ∃ records, findingRecords (out.select (founds.map (isReported weakOnly categories))) columns =
        .ok records ∧
      List.Forall₂
        (fun i record => ∃ e, founds[i]? = some (some e) ∧ IsRecordOf t columns e i record)
        (markedPlaces (founds.map (isReported weakOnly categories))) records := by
  refine h.exists_records_eq_ok columns weakOnly categories ?_
  intro i row e hrow hfound
  obtain ⟨fields, hfields, hkeys⟩ :=
    h.exists_findingRecord_eq_ok (t.hasColumn_toTable_iff.2 hname)
      (fun header hmem => t.hasColumn_toTable_iff.2 (hlocations header hmem)) hrow hfound
  refine ⟨fields, hfields, e, hfound, fields, rfl, ?_⟩
  intro key v hmem
  rw [hkeys key v hmem]
  split
  · rename_i hlocation
    exact h.cell?_eq_text (notMem_resultHeaders hmem) (hlocations key hlocation) hrow
  · rfl

end Texts

/-- If the columns of the settings are resolved in a table of texts, its findings become records
without failure, one for each reported row in the order of the rows. A record tells what the name
of its own row denotes in all fields that no location column has as its header. -/
theorem findingRecords_classifyTable (config : ScanConfig) (r : Registry) (t : TextTable)
    {columns : ScanColumns}
    (hresolve : (ScanColumns.resolve config.columns t.toTable).outcome = .ok columns) :
    ∃ out found records, (classifyTable r t.toTable columns.name).outcome = .ok out ∧
      selectFindings config.weakOnly config.categories out = .ok found ∧
      findingRecords found columns = .ok records ∧
      ∃ places : List Nat, places.Pairwise (· < ·) ∧
        found.rows.map some = places.map (out.rows[·]?) ∧
        (∀ i, i ∈ places ↔ ∃ raw e, (t.column columns.name)[i]? = some raw ∧
          r.classify raw = some e ∧ (e.isWeak = true ∨ config.weakOnly = false) ∧
          (config.categories.getD [] = [] ∨ e.category ∈ config.categories.getD [])) ∧
        List.Forall₂ (fun i record => ∃ raw e, (t.column columns.name)[i]? = some raw ∧
          r.classify raw = some e ∧ IsRecordOf t columns e i record) places records := by
  obtain ⟨hname, rfl⟩ := ScanColumns.resolve_eq_ok_iff.1 hresolve
  have hheaders {header : String} (hhas : t.toTable.hasColumn header = true) :
      header ∈ t.headers := by
    simpa [TextTable.toTable, Table.ofText] using Table.hasColumn_iff.1 hhas
  have hcol := hheaders hname
  obtain ⟨out, hout, hresults⟩ :=
    exists_classifyTable_eq_ok r t.isRegular_toTable (t.column?_toTable hcol)
  obtain ⟨records, hrecords, hplaces⟩ := hresults.exists_findingRecords_eq_ok
    ⟨config.columns.name, config.columns.locations.filter t.toTable.hasColumn⟩ hcol
    (fun header hmem => hheaders (List.mem_filter.1 hmem).2) config.weakOnly config.categories
  refine ⟨out, _, records, hout, hresults.selectFindings_eq _ _, hrecords, _,
    pairwise_markedPlaces _, map_some_keep ?length, fun i => mem_reportedPlaces,
    hplaces.imp ?record⟩
  case length => rw [List.length_map, hresults.rows]
  case record =>
    rintro i record ⟨e, he, hrecord⟩
    rw [List.getElem?_map, Option.map_eq_some_iff] at he
    obtain ⟨raw, hraw, hclassify⟩ := he
    exact ⟨raw, e, hraw, hclassify, hrecord⟩

/-- A table whose locations stand in a column that has the header of a field. -/
def labelledTable : TextTable where
  headers := ["algorithm", "category"]
  rows := [["md5", "digest"]]
  distinct := by decide
  regular := by decide

/-- The settings that make this column a location column. -/
def labelledConfig : ScanConfig where
  inputFile := Path.ofText "t.csv"
  columns := ⟨"algorithm", none, none, some "category"⟩
  weakOnly := true
  categories := none
  failOnWeak := false
  outputRoot := ScanConfig.usualOutput
  registryFile := none
  taxonomy := none
  named := by decide
  categories_ne_nil := by simp

theorem classify_builtin_md5 : Registry.builtin.classify "md5" = some md5 := by decide +kernel

/-- The other fields of the record still tell what the name denotes. -/
theorem findingRecords_classifyTable_labelled :
    (ScanColumns.resolve labelledConfig.columns labelledTable.toTable).outcome =
        .ok ⟨"algorithm", ["category"]⟩ ∧
      ∃ out found records, (classifyTable .builtin labelledTable.toTable "algorithm").outcome =
          .ok out ∧
        selectFindings true none out = .ok found ∧
        findingRecords found ⟨"algorithm", ["category"]⟩ = .ok records ∧
        ∃ fields, .map fields ∈ records ∧
          field? (.text "canonical_name") fields = some (.text "MD5") ∧
          field? (.text "is_weak") fields = some (.bool true) := by
  have hresolve : (ScanColumns.resolve labelledConfig.columns labelledTable.toTable).outcome =
      .ok ⟨"algorithm", ["category"]⟩ := by rfl
  have hmd5 := classify_builtin_md5
  obtain ⟨out, found, records, hout, hfound, hrecords, places, -, -, hplaces, hall⟩ :=
    findingRecords_classifyTable labelledConfig .builtin labelledTable hresolve
  have hplace : 0 ∈ places := (hplaces 0).2 ⟨"md5", md5, rfl, hmd5, .inl rfl, .inl rfl⟩
  cases hall with
  | nil => exact absurd hplace List.not_mem_nil
  | cons hrecord _ =>
    obtain ⟨raw, e, hraw, he, fields, rfl, hfields⟩ := hrecord
    obtain rfl : raw = "md5" := List.mem_singleton.1 (List.mem_of_getElem? hraw)
    obtain rfl : md5 = e := Option.some.inj (hmd5.symm.trans he)
    refine ⟨hresolve, out, found, _, hout, hfound, hrecords, fields, List.mem_cons_self, ?_, ?_⟩
    · exact hfields "canonical_name" (.text "MD5") (by simp [findingFields, md5])
    · exact hfields "is_weak" (.bool true) (by simp [findingFields, md5])

/-- The category of a finding is hidden by a location column that has its name as header. -/
theorem findingRecords_category :
    (ScanColumns.resolve labelledConfig.columns labelledTable.toTable).outcome =
        .ok ⟨"algorithm", ["category"]⟩ ∧
      Registry.builtin.classify "md5" = some md5 ∧
      ∃ out found fields, (classifyTable .builtin labelledTable.toTable "algorithm").outcome =
          .ok out ∧
        selectFindings true none out = .ok found ∧
        findingRecords found ⟨"algorithm", ["category"]⟩ = .ok [.map fields] ∧
        field? (.text "category") fields = some (.text "digest") := by
  have hcol : "algorithm" ∈ labelledTable.headers := by decide
  obtain ⟨out, hout, hresults⟩ := exists_classifyTable_eq_ok .builtin
    labelledTable.isRegular_toTable (labelledTable.column?_toTable hcol)
  obtain ⟨records, hrecords, hall⟩ := hresults.exists_findingRecords_eq_ok
    ⟨"algorithm", ["category"]⟩ hcol (by decide) true none
  have hplaces : markedPlaces (((labelledTable.column "algorithm").map
      Registry.builtin.classify).map (isReported true none)) = [0] := by decide +kernel
  rw [hplaces, List.forall₂_cons_left_iff] at hall
  obtain ⟨record, rest, ⟨e, he, fields, rfl, hfields⟩, hrest, rfl⟩ := hall
  obtain rfl := List.forall₂_nil_left_iff.1 hrest
  refine ⟨rfl, classify_builtin_md5, out, _, fields, hout, hresults.selectFindings_eq true none,
    hrecords, ?_⟩
  rw [hfields "category" (.text e.category.name) (List.mem_cons_self ..)]
  rfl

end CryptoAudit
