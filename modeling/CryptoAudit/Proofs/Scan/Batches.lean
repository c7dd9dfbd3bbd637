import CryptoAudit.Proofs.Scan.Preserved
import CryptoAudit.Proofs.Scan.Summary

/-!
# Scanning in batches

A scan treats each row of a table on its own: whether a row is reported, and as what, depends on
the headers and on the texts of the row, and not on its place or on the rows before it. Likewise
each number of a summary is the number of the rows that pass one test. So the results for a table
are made of those for its parts, and rows in another order give the same findings in that order.

## Main definitions

* `scanResults`: the records and the summary of a table
* `rowRecord`, `findingOf`: a single row as a record
* `Summary.Item`, `Summary.number`: what a summary counts, and how often

## Main results

* `HasResults.findingRecord_eq`: the record of a row
* `HasResults.findingRecords_eq`: the records of a table, row by row
* `Summary.number_ofOutcomes`: the numbers of a summary, row by row
* `scanResults_eq_ok`, `scanResults_eq_error`: the results for any table of texts
* `scanResults_batches`: the results for two tables in a row, and for rows in another order
-/

namespace CryptoAudit

/-- The records and the summary of a table, as a scan with these settings makes them. -/
def scanResults (r : Registry) (config : ScanConfig) (t : Table) :
    Except ScanError (List Value × Summary) := do
  let columns ← (ScanColumns.resolve config.columns t).outcome
  let scanned ← (classifyTable r t columns.name).outcome
  let found ← selectFindings config.weakOnly config.categories scanned
  let records ← findingRecords found columns
  let summary ← Summary.ofTable scanned
  return (records, summary)

/-! ### A single row -/

/-- The text of a row under one of its headers. -/
def textUnder (headers : List String) (header : String) (row : List String) : String :=
  (field? header (headers.zip row)).getD ""

theorem TextTable.column_eq_map (t : TextTable) (header : String) :
    t.column header = t.rows.map (textUnder t.headers header) :=
  rfl

/-- The cell that a row with an entry has under one of its headers once it is classified. -/
def classifiedCell (headers row : List String) (e : Entry) (header : String) : Value :=
  if header ∈ resultHeaders then resultCell header (some e)
  else .text (textUnder headers header row)

/-- The record of a row with an entry. -/
def rowRecord (columns : ScanColumns) (headers row : List String) (e : Entry) :
    List (Value × Value) :=
  setAll (nameFields (classifiedCell headers row e columns.name) e)
    (columns.locations.map fun header => (.text header, classifiedCell headers row e header))

/-- The location columns of the settings that are among the headers. -/
def columnsAmong (headers : List String) (columns : Columns) : ScanColumns :=
  ⟨columns.name, columns.locations.filter (· ∈ headers)⟩

/-- What a row is reported as, if its name denotes an entry that is asked for. -/
def findingOf (r : Registry) (config : ScanConfig) (headers row : List String) : Option Value :=
  ((r.classify (textUnder headers config.columns.name row)).filter fun e =>
    isReported config.weakOnly config.categories (some e)).map fun e =>
      .map (rowRecord (columnsAmong headers config.columns) headers row e)

/-- A row is reported exactly if what its name denotes is. -/
theorem isSome_findingOf (r : Registry) (config : ScanConfig) (headers row : List String) :
    (findingOf r config headers row).isSome =
      isReported config.weakOnly config.categories
        (r.classify (textUnder headers config.columns.name row)) := by
  rw [findingOf, Option.isSome_map]
  cases r.classify (textUnder headers config.columns.name row) with
  | none => rfl
  | some e => cases h : isReported config.weakOnly config.categories (some e) <;> simp [h]

theorem findingOf_eq_some {r : Registry} {config : ScanConfig} {headers row : List String}
    {record : Value} (h : findingOf r config headers row = some record) :
    ∃ e, r.classify (textUnder headers config.columns.name row) = some e ∧
      record = .map (rowRecord (columnsAmong headers config.columns) headers row e) := by
  obtain ⟨e, he, rfl⟩ := Option.map_eq_some_iff.1 h
  exact ⟨e, (Option.filter_eq_some_iff.1 he).1, rfl⟩

/-! ### The records of a table -/

/-- If each item that has a result is kept, and the step for what is kept gives this result, then
the results are those of the items in their order. -/
theorem mapM_keep_eq_ok {α β γ ε : Type} {result : α → Option γ} {f : β → Except ε γ}
    {xs : List α} {ys : List β}
    (h : List.Forall₂ (fun x y => ∀ z, result x = some z → f y = .ok z) xs ys) :
    (keep (xs.map fun x => (result x).isSome) ys).mapM f = .ok (xs.filterMap result) := by
  induction h with
  | nil => rfl
  | @cons x y xs ys hxy _ ih =>
    cases hx : result x with
    | none =>
      rw [List.map_cons, hx, List.filterMap_cons_none hx]
      exact ih
    | some z =>
      have hkeep : keep ((x :: xs).map fun x => (result x).isSome) (y :: ys) =
          y :: keep (xs.map fun x => (result x).isSome) ys := by
        rw [List.map_cons, hx]
        rfl
      rw [hkeep, List.mapM_cons, hxy z hx, ih, List.filterMap_cons_some hx]
      rfl

namespace HasResults

variable {r : Registry} {t : TextTable} {out : Table}

section Row

variable {column : String}
  (h : HasResults t.toTable out ((t.column column).map r.classify) resultHeaders)

include h

/-- Under its headers a classified row with an entry has its texts, or the results in their
place. -/
theorem cell?_eq_classifiedCell {header : String} (hheader : header ∈ t.headers) {i : Nat}
    {old : List String} {row : List Value} {e : Entry} (hold : t.rows[i]? = some old)
    (hrow : out.rows[i]? = some row) (he : r.classify (textUnder t.headers column old) = some e) :
    out.cell? header row = some (classifiedCell t.headers old e header) := by
  have hclassify : r.classify (t.text column old) = some e := he
  rw [h.cell?_eq_ite hheader hold hrow, hclassify]
  rfl

/-- A row with an entry becomes its record. -/
theorem findingRecord_eq {locations : List String} (hname : column ∈ t.headers)
    (hlocations : ∀ header ∈ locations, header ∈ t.headers) {i : Nat} {old : List String}
    {row : List Value} {e : Entry} (hold : t.rows[i]? = some old) (hrow : out.rows[i]? = some row)
    (he : r.classify (textUnder t.headers column old) = some e) :
    findingRecord out ⟨column, locations⟩ row =
      .ok (rowRecord ⟨column, locations⟩ t.headers old e) := by
  have hcell (header : String) (hheader : header ∈ t.headers) :=
    h.cell?_eq_classifiedCell hheader hold hrow he
  have hfound : ((t.column column).map r.classify)[i]? = some (some e) := by
    rw [List.getElem?_map, t.column_eq_map, List.getElem?_map, hold, Option.map_some,
      Option.map_some, he]
  -- Location columns are read from the classified row, where a result may have taken their place.
  have hlocated : locationFields out row locations = .ok (locations.map fun header =>
      (.text header, classifiedCell t.headers old e header)) := by
    apply mapM_eq_ok_map
    intro header hmem
    rw [Table.cell, hcell header (hlocations header hmem)]
    rfl
  rw [findingRecord, h.baseFields_eq (hcell column hname) hrow hfound, hlocated]
  rfl

end Row

/-- The rows of a table of texts become records one by one. -/
theorem findingRecords_eq {config : ScanConfig}
    (h : HasResults t.toTable out ((t.column config.columns.name).map r.classify) resultHeaders)
    (hname : config.columns.name ∈ t.headers) :
    findingRecords (out.select (((t.column config.columns.name).map r.classify).map
        (isReported config.weakOnly config.categories))) (columnsAmong t.headers config.columns) =
      .ok (t.rows.filterMap (findingOf r config t.headers)) := by
  have hmask : ((t.column config.columns.name).map r.classify).map
      (isReported config.weakOnly config.categories) =
        t.rows.map fun row => (findingOf r config t.headers row).isSome := by
    rw [t.column_eq_map, List.map_map, List.map_map]
    apply List.map_congr_left
    intro row _
    simp only [Function.comp_apply, isSome_findingOf]
  have hlength : t.rows.length = out.rows.length := by
    rw [h.rows, List.length_map, t.column_eq_map, List.length_map]
  rw [hmask]
  apply mapM_keep_eq_ok
  rw [List.forall₂_iff_get]
  refine ⟨hlength, ?_⟩
  intro i hi hi' record hrecord
  obtain ⟨e, he, rfl⟩ := findingOf_eq_some hrecord
  have hlocations : ∀ header ∈ (columnsAmong t.headers config.columns).locations,
      header ∈ t.headers := by
    intro header hmem
    simpa using (List.mem_filter.1 hmem).2
  have hfields := h.findingRecord_eq hname hlocations (List.getElem?_eq_getElem hi)
    (List.getElem?_eq_getElem hi') he
  exact congrArg (Except.map Value.map) hfields

end HasResults

/-! ### The numbers of a summary -/

namespace Summary

/-- What a summary counts. -/
inductive Item where
  | candidates
  | matched
  | unmatched
  | ofStrength (isWeak : Bool)
  | ofKind (c : Category) (isWeak : Bool)
  | weakName (name : String)

/-- How often an item is counted. A weak name that is not listed is counted zero times. -/
def number (s : Summary) : Item → Nat
  | .candidates => s.candidates
  | .matched => s.matched
  | .unmatched => s.unmatched
  | .ofStrength isWeak => if isWeak then s.weak else s.strong
  | .ofKind c isWeak => if isWeak then s.weakIn c else s.strongIn c
  | .weakName name => (field? name s.weakNames).getD 0

/-- Whether a row counts for an item, from what its name denotes. -/
def Item.covers : Item → Option Entry → Bool
  | .candidates => fun _ => true
  | .matched => Option.isSome
  | .unmatched => Option.isNone
  | .ofStrength isWeak => isOfStrength isWeak
  | .ofKind c isWeak => isOfKind c isWeak
  | .weakName name => fun found => found.any fun e => e.isWeak && e.name == name

/-- A listed name has the number of its rows, and a name that is not listed has none. -/
theorem number_weakName (name : String) (founds : List (Option Entry)) :
    (ofOutcomes founds).number (.weakName name) =
      founds.countP (Item.weakName name).covers := by
  have accounts := accounts_ofOutcomes founds
  rw [number]
  cases hfound : field? name (ofOutcomes founds).weakNames with
  | some n =>
    rw [field?_eq_some_iff accounts.distinct, accounts.mem_weakNames] at hfound
    exact hfound.2
  | none =>
    rw [field?_eq_none_iff] at hfound
    by_contra hne
    -- Rows with the name would put it on the list.
    have hlisted := (accounts.mem_weakNames name _).2 ⟨Nat.pos_of_ne_zero (Ne.symm hne), rfl⟩
    exact hfound (List.mem_map_of_mem (f := Prod.fst) hlisted)

/-- Every number of a summary is the number of the rows that count for the item. -/
theorem number_ofOutcomes (item : Item) (founds : List (Option Entry)) :
    (ofOutcomes founds).number item = founds.countP item.covers := by
  cases item with
  | candidates => exact (congrFun List.countP_true founds).symm
  | matched => rfl
  | unmatched => rfl
  | ofStrength isWeak => cases isWeak <;> rfl
  | ofKind c isWeak =>
    cases isWeak with
    | false => exact strongIn_ofOutcomes c founds
    | true => exact weakIn_ofOutcomes c founds
  | weakName name => exact number_weakName name founds

end Summary

/-! ### Whole tables -/

/-- What the names of the rows denote. -/
def foundsOf (r : Registry) (config : ScanConfig) (headers : List String)
    (rows : List (List String)) : List (Option Entry) :=
  rows.map fun row => r.classify (textUnder headers config.columns.name row)

/-- A table of texts that has the column of names is scanned without failure, row by row. -/
theorem scanResults_eq_ok (r : Registry) {config : ScanConfig} {t : TextTable}
    (hname : config.columns.name ∈ t.headers) :
    scanResults r config t.toTable = .ok (t.rows.filterMap (findingOf r config t.headers),
      .ofOutcomes (foundsOf r config t.headers t.rows)) := by
  obtain ⟨out, hout, hresults⟩ :=
    exists_classifyTable_eq_ok r t.isRegular_toTable (t.column?_toTable hname)
  have hresolve : (ScanColumns.resolve config.columns t.toTable).outcome =
      .ok (columnsAmong t.headers config.columns) := by
    rw [ScanColumns.resolve_eq_ok_iff]
    refine ⟨t.hasColumn_toTable_iff.2 hname, ?_⟩
    rw [columnsAmong, ScanColumns.mk.injEq]
    refine ⟨rfl, List.filter_congr ?_⟩
    intro header _
    rw [Bool.eq_iff_iff, decide_eq_true_eq, t.hasColumn_toTable_iff]
  have hfounds : (t.column config.columns.name).map r.classify =
      foundsOf r config t.headers t.rows := by
    rw [t.column_eq_map, List.map_map, foundsOf, Function.comp_def]
  have hselect := hresults.selectFindings_eq config.weakOnly config.categories
  have hrecords := hresults.findingRecords_eq hname
  have hsummary := hresults.ofTable_eq
  rw [hfounds] at hselect hrecords hsummary
  have hout' : (classifyTable r t.toTable (columnsAmong t.headers config.columns).name).outcome =
      .ok out := hout
  rw [scanResults, hresolve]
  simp only [bind, Except.bind, hout', hselect, hrecords, hsummary, pure, Except.pure]

/-- Without the column of names no table of texts is scanned. -/
theorem scanResults_eq_error (r : Registry) {config : ScanConfig} {t : TextTable}
    (hname : config.columns.name ∉ t.headers) :
    scanResults r config t.toTable =
      .error (.noNameColumn config.columns.name (t.headers.map .text)) := by
  have hresolve : (ScanColumns.resolve config.columns t.toTable).outcome =
      .error (.noNameColumn config.columns.name (t.headers.map .text)) := by
    rw [ScanColumns.resolve_eq_error_iff, Bool.eq_false_iff, ne_eq, t.hasColumn_toTable_iff]
    exact ⟨hname, rfl⟩
  rw [scanResults, hresolve]
  rfl

/-- Two tables with the same headers are scanned in a row or apart with the same results: the
findings are those of the first and then those of the second, and each number of the summary is the
sum of the two numbers. In another order each row is reported as what it was reported as before, at
its new place, and no number changes. Without the column of names none of these tables is
scanned. -/
theorem scanResults_batches (r : Registry) (config : ScanConfig)
    {first second whole reordered : TextTable} (hsecond : second.headers = first.headers)
    (hwhole : whole.headers = first.headers) (hreordered : reordered.headers = first.headers)
    (append : whole.rows = first.rows ++ second.rows) (perm : reordered.rows.Perm first.rows) :
    (config.columns.name ∈ first.headers →
      ∃ (finding : List String → Option Value) (s₁ s₂ s s' : Summary),
        scanResults r config first.toTable = .ok (first.rows.filterMap finding, s₁) ∧
        scanResults r config second.toTable = .ok (second.rows.filterMap finding, s₂) ∧
        scanResults r config whole.toTable =
          .ok (first.rows.filterMap finding ++ second.rows.filterMap finding, s) ∧
        scanResults r config reordered.toTable = .ok (reordered.rows.filterMap finding, s') ∧
        ∀ item : Summary.Item, s.number item = s₁.number item + s₂.number item ∧
          s'.number item = s₁.number item) ∧
    (config.columns.name ∉ first.headers → ∀ t ∈ [first, second, whole, reordered],
      scanResults r config t.toTable =
        .error (.noNameColumn config.columns.name (first.headers.map .text))) := by
  constructor
  · intro hname
    have hscan (t : TextTable) (ht : t.headers = first.headers) : scanResults r config t.toTable =
        .ok (t.rows.filterMap (findingOf r config first.headers),
          .ofOutcomes (foundsOf r config first.headers t.rows)) := by
      rw [← ht] at hname ⊢
      exact scanResults_eq_ok r hname
    have hrecords := hscan whole hwhole
    rw [append, List.filterMap_append] at hrecords
    refine ⟨_, _, _, _, _, hscan first rfl, hscan second hsecond, hrecords,
      hscan reordered hreordered, ?_⟩
    intro item
    constructor
    · rw [Summary.number_ofOutcomes, Summary.number_ofOutcomes, Summary.number_ofOutcomes,
        foundsOf, List.map_append, List.countP_append]
      rfl
    · rw [Summary.number_ofOutcomes, Summary.number_ofOutcomes]
      exact (perm.map _).countP_eq _
  · intro hname t ht
    have hheaders : t.headers = first.headers := by
      simp only [List.mem_cons, List.not_mem_nil, or_false] at ht
      rcases ht with rfl | rfl | rfl | rfl
      · rfl
      · exact hsecond
      · exact hwhole
      · exact hreordered
    rw [← hheaders] at hname ⊢
    exact scanResults_eq_error r hname

/-- The first two rows of the table with repeated names. -/
def repeatedStart : TextTable where
  headers := ["name"]
  rows := [["sha-1"], ["md5"]]
  distinct := repeatedTable.distinct
  regular := by decide

/-- The other rows of this table. -/
def repeatedRest : TextTable where
  headers := ["name"]
  rows := [["aes-128"], ["SHA_1"], ["other"], ["MD5-hex"]]
  distinct := repeatedTable.distinct
  regular := by decide

/-- The first two rows the other way round. -/
def repeatedSwapped : TextTable where
  headers := ["name"]
  rows := [["md5"], ["sha-1"]]
  distinct := repeatedTable.distinct
  regular := by decide

/-- Spellings of one name that stand in two batches are counted together. -/
theorem scanResults_batches_repeated :
    "name" ∈ repeatedStart.headers ∧ repeatedTable.rows = repeatedStart.rows ++ repeatedRest.rows ∧
      repeatedSwapped.rows.Perm repeatedStart.rows ∧
      ∃ records₁ records₂ s₁ s₂ s,
        scanResults .builtin (plainConfig "name" (by decide)) repeatedStart.toTable =
          .ok (records₁, s₁) ∧
        scanResults .builtin (plainConfig "name" (by decide)) repeatedRest.toTable =
          .ok (records₂, s₂) ∧
        scanResults .builtin (plainConfig "name" (by decide)) repeatedTable.toTable =
          .ok (records₁ ++ records₂, s) ∧
        s.number (.weakName "SHA1") =
          s₁.number (.weakName "SHA1") + s₂.number (.weakName "SHA1") := by
  have hname : "name" ∈ repeatedStart.headers := by decide
  have hrest : repeatedRest.headers = repeatedStart.headers := rfl
  have hwhole : repeatedTable.headers = repeatedStart.headers := rfl
  have hswapped : repeatedSwapped.headers = repeatedStart.headers := rfl
  have happend : repeatedTable.rows = repeatedStart.rows ++ repeatedRest.rows := rfl
  have hperm : repeatedSwapped.rows.Perm repeatedStart.rows := List.Perm.swap _ _ _
  obtain ⟨hscans, -⟩ := scanResults_batches .builtin (plainConfig "name" (by decide)) hrest hwhole
    hswapped happend hperm
  obtain ⟨finding, s₁, s₂, s, s', hs₁, hs₂, hs, -, hnumbers⟩ := hscans hname
  exact ⟨hname, happend, hperm, _, _, s₁, s₂, s, hs₁, hs₂, hs, (hnumbers _).1⟩

end CryptoAudit
