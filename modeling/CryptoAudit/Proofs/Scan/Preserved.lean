import CryptoAudit.Proofs.Scan.Record

/-!
# What classifying a table keeps

Classifying a table keeps its headers and puts those of the result columns that are new after
them. It keeps the rows, and each row keeps its cells, except under a header that is also the
header of a result column. Under such a header the row has the result of its own name instead. The
name column may have such a header too, and then the record of a finding tells that result instead
of the name.

## Main definitions

* `addHeader`: headers with one more header set

## Main results

* `headers_classifyTable`: the headers of any classified table
* `Table.IsRegular.getElem?_eq_cell?`: the cell at the place of a header
* `HasResults.cell?_eq_ite`: a cell of a column that was there before
* `classifyTable_preserves`: headers, rows and records of a classified table of texts
* `classifyTable_overwrites`: a name column that is lost
-/

namespace CryptoAudit

/-! ### Headers -/

/-- The headers with one more set, which comes last if it is new. -/
def addHeader (headers : List Value) (header : String) : List Value :=
  if headers.any (· == .text header) then headers else headers ++ [.text header]

theorem Table.headers_setColumn (t : Table) (header : String) (cells : List Value) :
    (t.setColumn header cells).headers = addHeader t.headers header :=
  rfl

/-- The result columns are set one after the other, whatever the table holds. -/
theorem headers_classifyTable {r : Registry} {t out : Table} {column : String}
    (h : (classifyTable r t column).outcome = .ok out) :
    out.headers = resultHeaders.reverse.foldl addHeader t.headers := by
  obtain ⟨cells, -, h⟩ := Log.Logged.outcome_bind_eq_ok_iff.1 h
  obtain ⟨outcomes, -, h⟩ := Log.Logged.outcome_bind_eq_ok_iff.1 h
  obtain ⟨marked, hmarked, h⟩ := Log.Logged.outcome_bind_eq_ok_iff.1 h
  obtain ⟨notice, -, h⟩ := Log.Logged.outcome_bind_eq_ok_iff.1 h
  obtain ⟨-, -, h⟩ := Log.Logged.outcome_bind_eq_ok_iff.1 h
  cases h
  have hset : setMatched (outcomes.setInto t) = .ok out := hmarked
  rw [setMatched] at hset
  cases hnames : (outcomes.setInto t).column ResultColumn.name with
  | error e =>
    rw [hnames] at hset
    cases hset
  | ok names =>
    rw [hnames] at hset
    cases hset
    simp only [Outcomes.setInto, Table.headers_setColumn]
    rfl

/-- Of distinct headers that are set, those that are new come after the others. -/
theorem foldl_addHeader {new : List String} (distinct : new.Nodup) (names : List String) :
    new.foldl addHeader (names.map .text) =
      (names ++ new.filter fun header => header ∉ names).map .text := by
  induction new generalizing names with
  | nil => simp
  | cons header new ih =>
    rw [List.nodup_cons] at distinct
    have hany : (names.map Value.text).any (· == .text header) = decide (header ∈ names) := by
      rw [Bool.eq_iff_iff, List.any_eq_true, decide_eq_true_eq]
      simp [Value.beq_text_iff]
    rw [List.foldl_cons, addHeader, hany]
    by_cases hmem : header ∈ names
    · simp [hmem, ih distinct.2]
    · have hrest : (new.filter fun other => other ∉ names ++ [header]) =
          new.filter fun other => other ∉ names := by
        refine List.filter_congr fun other hother => ?_
        have hne : other ≠ header := fun heq => distinct.1 (heq ▸ hother)
        simp [hne]
      have hnext : names.map Value.text ++ [Value.text header] = (names ++ [header]).map .text := by
        rw [List.map_append]
        rfl
      rw [if_neg (by simpa using hmem), hnext, ih distinct.2, hrest,
        List.filter_cons_of_pos (by simpa using hmem)]
      simp

/-! ### Cells by their places -/

/-- Under distinct headers each value stands at the place of its header. -/
theorem field?_zip_eq_getElem? {names : List String} (distinct : names.Nodup) {header : String}
    {j : Nat} (hheader : names[j]? = some header) (row : List Value) :
    field? (Value.text header) ((names.map .text).zip row) = row[j]? := by
  induction names generalizing j row with
  | nil => cases hheader
  | cons name names ih =>
    rw [List.nodup_cons] at distinct
    cases row with
    | nil => rfl
    | cons v row =>
      rw [List.map_cons, List.zip_cons_cons]
      cases j with
      | zero =>
        obtain rfl : name = header := Option.some.inj hheader
        simp [field?]
      | succ j =>
        have hrest : names[j]? = some header := hheader
        have hne : name ≠ header := fun heq => distinct.1 (heq ▸ List.mem_of_getElem? hrest)
        simp [field?, hne, ih distinct.2 hrest]

/-- The cell of a row under a header stands at the place of the header. -/
theorem Table.IsRegular.getElem?_eq_cell? {t : Table} (h : t.IsRegular) {header : String} {j : Nat}
    (hheader : t.headers[j]? = some (.text header)) (row : List Value) :
    row[j]? = t.cell? header row := by
  obtain ⟨names, distinct, hnames⟩ := h.headers
  have hname : names[j]? = some header := by
    simpa [hnames] using hheader
  rw [Table.cell?, Table.fields, hnames, field?_zip_eq_getElem? distinct hname]

/-- The text of a row under a header stands at the place of the header. -/
theorem TextTable.text_eq_of_getElem? (t : TextTable) {header text : String} {j : Nat}
    (hheader : t.headers[j]? = some header) {row : List String} (htext : row[j]? = some text) :
    t.text header row = text := by
  have hcell : (row.map Value.text)[j]? = t.toTable.cell? header (row.map .text) := by
    refine t.isRegular_toTable.getElem?_eq_cell? ?_ _
    rw [TextTable.toTable, Table.ofText, List.getElem?_map, hheader, Option.map_some]
  have hfield : t.toTable.cell? header (row.map .text) =
      (field? header (t.headers.zip row)).map .text :=
    field?_zip_text header t.headers row
  rw [hfield, List.getElem?_map, htext] at hcell
  cases hfound : field? header (t.headers.zip row) with
  | none => simp [hfound] at hcell
  | some s =>
    simp only [hfound, Option.map_some, Option.some.injEq, Value.text.injEq] at hcell
    rw [TextTable.text, hfound, Option.getD_some, hcell]

/-! ### Rows and records of a classified table -/

section Texts

variable {r : Registry} {t : TextTable} {column : String} {out : Table}
  (h : HasResults t.toTable out ((t.column column).map r.classify) resultHeaders)

include h

/-- Under a header of the table a row keeps its text, unless that is also the header of a result
column. Then the row has the result of its own name there. -/
theorem HasResults.cell?_eq_ite {header : String} (hcol : header ∈ t.headers) {i : Nat}
    {old : List String} {row : List Value} (hold : t.rows[i]? = some old)
    (hrow : out.rows[i]? = some row) :
    out.cell? header row =
      some (if header ∈ resultHeaders then resultCell header (r.classify (t.text column old))
        else .text (t.text header old)) := by
  have htexts (other : String) : (t.column other)[i]? = some (t.text other old) := by
    rw [TextTable.column, List.getElem?_map, hold, Option.map_some]
  split
  · rename_i hresult
    refine h.cell?_eq_some hresult hrow ?_
    rw [List.getElem?_map, htexts, Option.map_some]
  · rename_i hnew
    rw [h.cell?_eq_text hnew hcol hrow, htexts, Option.map_some]

/-- No row is added or lost, and each keeps its cells at their places, except under the headers of
the result columns. -/
theorem HasResults.forall₂_rows {new : List String}
    (hheaders : out.headers = (t.headers ++ new).map .text) :
    List.Forall₂ (fun old row => row.length = out.headers.length ∧
      ∀ (j : Nat) header text, t.headers[j]? = some header → old[j]? = some text →
        row[j]? = some (if header ∈ resultHeaders then
          resultCell header (r.classify (t.text column old)) else .text text))
      t.rows out.rows := by
  rw [List.forall₂_iff_get]
  refine ⟨by rw [h.rows, List.length_map, TextTable.column, List.length_map], ?_⟩
  intro i hi hi'
  have hold : t.rows[i]? = some t.rows[i] := List.getElem?_eq_getElem hi
  have hrow : out.rows[i]? = some out.rows[i] := List.getElem?_eq_getElem hi'
  refine ⟨h.rectangular.rows _ (List.getElem_mem hi'), ?_⟩
  intro j header text hheader htext
  rw [List.get_eq_getElem] at htext
  have hplace : out.headers[j]? = some (.text header) := by
    have hj : j < t.headers.length := (List.getElem?_eq_some_iff.1 hheader).1
    rw [hheaders, List.getElem?_map, List.getElem?_append_left hj, hheader, Option.map_some]
  have hcell := h.cell?_eq_ite (List.mem_of_getElem? hheader) hold hrow
  rw [t.text_eq_of_getElem? hheader htext] at hcell
  exact ((h.regular t.isRegular_toTable).getElem?_eq_cell? hplace _).trans hcell

/-- Without location columns the record of a row has the fields of its name and of what the name
denotes, and no others. The name is the text of the row unless a result has taken its place. -/
theorem HasResults.exists_plainRecords_eq_ok (hcol : column ∈ t.headers) (weakOnly : Bool)
    (categories : Option (List Category)) :
    ∃ records, findingRecords
        (out.select (((t.column column).map r.classify).map (isReported weakOnly categories)))
        ⟨column, []⟩ = .ok records ∧
      List.Forall₂
        (fun i record => ∃ raw e, (t.column column)[i]? = some raw ∧ r.classify raw = some e ∧
          record = .map (nameFields
            (if column ∈ resultHeaders then resultCell column (some e) else .text raw) e))
        (markedPlaces (((t.column column).map r.classify).map (isReported weakOnly categories)))
        records := by
  refine h.exists_records_eq_ok ⟨column, []⟩ weakOnly categories ?_
  intro i row e hrow hfound
  -- The name is read again from the classified row, under the header it had in the table.
  obtain ⟨raw, hraw, he⟩ : ∃ raw, (t.column column)[i]? = some raw ∧ r.classify raw = some e := by
    rwa [List.getElem?_map, Option.map_eq_some_iff] at hfound
  obtain ⟨old, hold, rfl⟩ : ∃ old, t.rows[i]? = some old ∧ t.text column old = raw := by
    rwa [TextTable.column, List.getElem?_map, Option.map_eq_some_iff] at hraw
  have hname := h.cell?_eq_ite hcol hold hrow
  rw [he] at hname
  refine ⟨_, ?_, t.text column old, e, hraw, he, rfl⟩
  rw [findingRecord, h.baseFields_eq hname hrow hfound]
  rfl

end Texts

/-- Classifying a table of texts keeps its headers, with those of the new result columns after
them, and its rows, each with its cells at their places. The cells under a header that a result
column has too are the only ones that change: they are the results of the row. So without location
columns the record of a finding has the raw name of its row, or if the name column has such a
header, the result that stands there. -/
theorem classifyTable_preserves (r : Registry) (t : TextTable) {column : String}
    (hcol : column ∈ t.headers) :
    ∃ out, (classifyTable r t.toTable column).outcome = .ok out ∧
      out.headers =
        (t.headers ++ resultHeaders.reverse.filter fun header => header ∉ t.headers).map .text ∧
      List.Forall₂ (fun old row => row.length = out.headers.length ∧
        ∀ (j : Nat) header text, t.headers[j]? = some header → old[j]? = some text →
          row[j]? = some (if header ∈ resultHeaders then
            resultCell header (r.classify (t.text column old)) else .text text))
        t.rows out.rows ∧
      ∀ config : ScanConfig, config.columns.name = column →
        (∀ header ∈ config.columns.locations, header ∉ t.headers) →
        (ScanColumns.resolve config.columns t.toTable).outcome = .ok ⟨column, []⟩ ∧
        ∃ found records, selectFindings config.weakOnly config.categories out = .ok found ∧
          findingRecords found ⟨column, []⟩ = .ok records ∧
          ∃ places : List Nat, places.Pairwise (· < ·) ∧
            (∀ i, i ∈ places ↔ ∃ raw e, (t.column column)[i]? = some raw ∧
              r.classify raw = some e ∧ (e.isWeak = true ∨ config.weakOnly = false) ∧
              (config.categories.getD [] = [] ∨ e.category ∈ config.categories.getD [])) ∧
            List.Forall₂
              (fun i record => ∃ raw e, (t.column column)[i]? = some raw ∧
                r.classify raw = some e ∧ record = .map (nameFields
                  (if column ∈ resultHeaders then resultCell column (some e) else .text raw) e))
              places records := by
  obtain ⟨out, hout, hresults⟩ :=
    exists_classifyTable_eq_ok r t.isRegular_toTable (t.column?_toTable hcol)
  have hheaders : out.headers =
      (t.headers ++ resultHeaders.reverse.filter fun header => header ∉ t.headers).map .text :=
    (headers_classifyTable hout).trans (foldl_addHeader (by decide) t.headers)
  refine ⟨out, hout, hheaders, hresults.forall₂_rows hheaders, ?_⟩
  intro config hname hlocations
  constructor
  · rw [ScanColumns.resolve_eq_ok_iff, hname]
    refine ⟨t.hasColumn_toTable_iff.2 hcol, ?_⟩
    have hnone : config.columns.locations.filter t.toTable.hasColumn = [] := by
      rw [List.filter_eq_nil_iff]
      intro header hmem hhas
      exact hlocations header hmem (t.hasColumn_toTable_iff.1 hhas)
    rw [hnone]
  · obtain ⟨records, hrecords, hplaces⟩ :=
      hresults.exists_plainRecords_eq_ok hcol config.weakOnly config.categories
    exact ⟨_, records, hresults.selectFindings_eq _ _, hrecords, _, pairwise_markedPlaces _,
      fun i => mem_reportedPlaces, hplaces⟩

/-- The settings of a scan without location columns. -/
def plainConfig (column : String) (named : Text.isBlankText column = false) : ScanConfig where
  inputFile := Path.ofText "t.csv"
  columns := ⟨column, none, none, none⟩
  weakOnly := true
  categories := none
  failOnWeak := false
  outputRoot := ScanConfig.usualOutput
  registryFile := none
  taxonomy := none
  named := named
  categories_ne_nil := nofun

/-- A name under a header of its own is kept, and its record tells it. -/
theorem classifyTable_preserves_labelled :
    "algorithm" ∈ labelledTable.headers ∧
      ∃ (out : Table) (row : List Value) (found : Table) (records : List Value),
        (classifyTable .builtin labelledTable.toTable "algorithm").outcome = .ok out ∧
        out.rows[0]? = some row ∧ row[0]? = some (Value.text "md5") ∧
        selectFindings true none out = .ok found ∧
        findingRecords found ⟨"algorithm", []⟩ = .ok records ∧
        ∃ fields : List (Value × Value), Value.map fields ∈ records ∧
          field? (Value.text "name") fields = some (.text "md5") := by
  have hcol : "algorithm" ∈ labelledTable.headers := by decide
  obtain ⟨out, hout, -, hrows, hconfig⟩ := classifyTable_preserves .builtin labelledTable hcol
  obtain ⟨-, found, records, hfound, hrecords, places, -, hplaces, hall⟩ :=
    hconfig (plainConfig "algorithm" (by decide)) rfl (by decide)
  obtain ⟨hlen, hrows⟩ := List.forall₂_iff_get.1 hrows
  have hfirst : 0 < out.rows.length := by
    rw [← hlen]
    decide
  have hcell := (hrows 0 (by decide) hfirst).2 0 "algorithm" "md5" rfl rfl
  rw [if_neg (by decide)] at hcell
  have hplace : 0 ∈ places :=
    (hplaces 0).2 ⟨"md5", md5, rfl, classify_builtin_md5, .inl rfl, .inl rfl⟩
  refine ⟨hcol, out, out.rows[0], found, records, hout, List.getElem?_eq_getElem hfirst, hcell,
    hfound, hrecords, ?_⟩
  cases hall with
  | nil => exact absurd hplace List.not_mem_nil
  | cons hrecord _ =>
    obtain ⟨raw, e, hraw, -, rfl⟩ := hrecord
    obtain rfl : raw = "md5" := List.mem_singleton.1 (List.mem_of_getElem? hraw)
    exact ⟨_, List.mem_cons_self, rfl⟩

/-- A name under the header of the canonical names is lost: its column and its record have the
canonical name. -/
theorem classifyTable_overwrites :
    namedTable.headers[0]? = some ResultColumn.name ∧
      namedTable.rows[0]? = some ["md5", "a.py"] ∧
      (ScanColumns.resolve ⟨ResultColumn.name, none, none, none⟩ namedTable.toTable).outcome =
        .ok ⟨ResultColumn.name, []⟩ ∧
      ∃ (out : Table) (row : List Value) (found : Table) (records : List Value)
        (fields : List (Value × Value)),
        (classifyTable .builtin namedTable.toTable ResultColumn.name).outcome = .ok out ∧
        out.rows[0]? = some row ∧ row[0]? = some (Value.text "MD5") ∧
        selectFindings true none out = .ok found ∧
        findingRecords found ⟨ResultColumn.name, []⟩ = .ok records ∧
        records[0]? = some (.map fields) ∧
        field? (Value.text "name") fields = some (.text "MD5") := by
  have hcol : ResultColumn.name ∈ namedTable.headers := by decide
  have hmd5 : Registry.builtin.classify (namedTable.text ResultColumn.name ["md5", "a.py"]) =
      some md5 := classify_builtin_md5
  obtain ⟨out, hout, hresults⟩ := exists_classifyTable_eq_ok .builtin
    namedTable.isRegular_toTable (namedTable.column?_toTable hcol)
  have hheaders := (headers_classifyTable hout).trans (foldl_addHeader (by decide) _)
  obtain ⟨hlen, hrows⟩ := List.forall₂_iff_get.1 (hresults.forall₂_rows hheaders)
  have hfirst : 0 < out.rows.length := by
    rw [← hlen]
    decide
  have hcell := (hrows 0 (by decide) hfirst).2 0 ResultColumn.name "md5" rfl rfl
  rw [if_pos (by decide)] at hcell
  obtain ⟨records, hrecords, hall⟩ := hresults.exists_plainRecords_eq_ok hcol true none
  have hplaces : markedPlaces (((namedTable.column ResultColumn.name).map
      Registry.builtin.classify).map (isReported true none)) = [0] := by decide +kernel
  rw [hplaces, List.forall₂_cons_left_iff] at hall
  obtain ⟨record, rest, ⟨raw, e, hraw, he, rfl⟩, -, rfl⟩ := hall
  obtain rfl : "md5" = raw := Option.some.inj hraw
  obtain rfl : md5 = e := Option.some.inj (classify_builtin_md5.symm.trans he)
  refine ⟨rfl, rfl, rfl, out, out.rows[0], _, _, _, hout, List.getElem?_eq_getElem hfirst, ?_,
    hresults.selectFindings_eq true none, hrecords, rfl, rfl⟩
  exact hcell.trans (congrArg (fun found => some (resultCell ResultColumn.name found)) hmd5)

end CryptoAudit
