import CryptoAudit.Proofs.Scan.Batches
import CryptoAudit.Scan.Report

/-!
# Scans that complete

The only thing that a scan asks of a table of texts is its column of names. Once that is there,
each later step finds the columns and the fields that it reads: result columns are there because
they were set, other columns because setting keeps them, and the fields of a summary because all
of them are written. So no coincidence of headers makes a scan fail half-way.

## Main definitions

* `Completes`: a scan with given columns has all its results and reports on them

## Main results

* `outcome_reportCategories`: a report on categories that have both numbers
* `Summary.outcome_reportScan`: any summary is reported on
* `ScanColumns.resolve_texts`: the columns that a scan uses, and the warnings about the others
* `scan_completes`: a table without the column of names is refused, and any other is scanned
-/

namespace CryptoAudit

open Log (Logged)

/-! ### Reports -/

theorem numberAt_of_field {key : String} {fields : List (Value × Value)} {n : Nat}
    (h : field? (Value.text key) fields = some (Summary.count n)) :
    numberAt key (.map fields) = .ok (decimal n) := by
  rw [numberAt, valueAt, h]
  rfl

/-- Categories that have both numbers are reported on. -/
theorem outcome_reportCategories {entries : List (Value × Value)}
    (h : ∀ entry ∈ entries, ∃ weak strong, numberAt "weak" entry.2 = .ok weak ∧
      numberAt "strong" entry.2 = .ok strong) : (reportCategories entries).outcome = .ok () := by
  induction entries with
  | nil => rfl
  | cons entry entries ih =>
    obtain ⟨category, counts⟩ := entry
    obtain ⟨weak, strong, hweak, hstrong⟩ := h _ List.mem_cons_self
    have hrest := ih fun entry hentry => h entry (List.mem_cons_of_mem _ hentry)
    rw [reportCategories, Logged.outcome_bind_ok hweak, Logged.outcome_bind_ok hstrong,
      Logged.outcome_bind_ok rfl, hrest]

namespace Summary

variable (s : Summary)

/-- The numbers of a whole table, each with its key. -/
def numbers : List (String × Nat) :=
  [("candidates", s.candidates), ("matched", s.matched), ("unmatched", s.unmatched),
    ("weak", s.weak), ("strong", s.strong)]

theorem numberAt_toValue {key : String} {n : Nat} (h : (key, n) ∈ s.numbers) :
    numberAt key s.toValue = .ok (decimal n) := by
  simp only [numbers, List.mem_cons, Prod.mk.injEq, List.not_mem_nil, or_false] at h
  apply numberAt_of_field
  rcases h with ⟨rfl, rfl⟩ | ⟨rfl, rfl⟩ | ⟨rfl, rfl⟩ | ⟨rfl, rfl⟩ | ⟨rfl, rfl⟩ <;> simp [field?]

/-- The categories of a summary are there, and each of them has both numbers. -/
theorem exists_valueAt_by_category :
    ∃ entries, valueAt "by_category" s.toValue = .ok (.map entries) ∧ ∀ entry ∈ entries,
      ∃ weak strong, numberAt "weak" entry.2 = .ok weak ∧
        numberAt "strong" entry.2 = .ok strong := by
  refine ⟨_, by simp only [valueAt, toValue, field?, Value.equals_text]; rfl, ?_⟩
  intro entry hentry
  obtain ⟨⟨c, weak, strong⟩, -, rfl⟩ := List.mem_map.1 hentry
  exact ⟨decimal weak, decimal strong, numberAt_of_field (by simp [field?]),
    numberAt_of_field (by simp [field?])⟩

/-- Any summary is reported on: all fields that the report reads are there. -/
theorem outcome_reportScan (total : Int) (findingsPath summaryPath : Path) :
    (reportScan s.toValue total findingsPath summaryPath).outcome = .ok () := by
  have hcandidates : numberAt "candidates" s.toValue = .ok (decimal s.candidates) :=
    s.numberAt_toValue (by simp [numbers])
  have hmatched : numberAt "matched" s.toValue = .ok (decimal s.matched) :=
    s.numberAt_toValue (by simp [numbers])
  have hunmatched : numberAt "unmatched" s.toValue = .ok (decimal s.unmatched) :=
    s.numberAt_toValue (by simp [numbers])
  have hweak : numberAt "weak" s.toValue = .ok (decimal s.weak) :=
    s.numberAt_toValue (by simp [numbers])
  have hstrong : numberAt "strong" s.toValue = .ok (decimal s.strong) :=
    s.numberAt_toValue (by simp [numbers])
  obtain ⟨entries, hcategories, hcounts⟩ := s.exists_valueAt_by_category
  have hnames : ∃ names, valueAt "weak_algorithms" s.toValue = .ok names :=
    ⟨_, by simp only [valueAt, toValue, field?, Value.equals_text]; rfl⟩
  obtain ⟨names, hnames⟩ := hnames
  have hreported : (reportCategories (entriesOf (.map entries))).outcome = .ok () :=
    outcome_reportCategories hcounts
  rw [reportScan, Logged.outcome_bind_ok rfl, Logged.outcome_bind_ok hcandidates,
    Logged.outcome_bind_ok hmatched, Logged.outcome_bind_ok hunmatched,
    Logged.outcome_bind_ok rfl, Logged.outcome_bind_ok hweak, Logged.outcome_bind_ok hstrong,
    Logged.outcome_bind_ok rfl, Logged.outcome_bind_ok hcategories,
    Logged.outcome_bind_ok hreported, Logged.outcome_bind_ok hnames]
  rfl

end Summary

/-! ### Whole scans -/

/-- The columns that a scan uses in a table of texts, and the warnings about those that the table
does not have. -/
theorem ScanColumns.resolve_texts {columns : Columns} {t : TextTable}
    (hname : columns.name ∈ t.headers) :
    resolve columns t.toTable = ⟨(columns.locations.filter (· ∉ t.headers)).map warning,
      .ok ⟨columns.name, columns.locations.filter (· ∈ t.headers)⟩⟩ := by
  have hhas : t.toTable.hasColumn = fun header => decide (header ∈ t.headers) := by
    funext header
    rw [Bool.eq_iff_iff, decide_eq_true_eq, t.hasColumn_toTable_iff]
  simp only [resolve, hhas, hname, decide_true, if_true, decide_not]

/-- A scan with given columns has all its results, and reports on them wherever they are
written. -/
def Completes (r : Registry) (config : ScanConfig) (t : Table) (columns : ScanColumns) : Prop :=
  ∃ scanned found records summary, (classifyTable r t columns.name).outcome = .ok scanned ∧
    selectFindings config.weakOnly config.categories scanned = .ok found ∧
    findingRecords found columns = .ok records ∧ Summary.ofTable scanned = .ok summary ∧
    ∀ findingsPath summaryPath, (reportScan summary.toValue found.rows.length findingsPath
      summaryPath).outcome = .ok ()

/-- With a column of names and location columns that a table of texts has, a scan completes. -/
theorem completes_of_mem (r : Registry) (config : ScanConfig) {t : TextTable}
    {columns : ScanColumns} (hname : columns.name ∈ t.headers)
    (hlocations : ∀ header ∈ columns.locations, header ∈ t.headers) :
    Completes r config t.toTable columns := by
  obtain ⟨scanned, hscanned, hresults⟩ :=
    exists_classifyTable_eq_ok r t.isRegular_toTable (t.column?_toTable hname)
  obtain ⟨records, hrecords, -⟩ := hresults.exists_findingRecords_eq_ok columns hname hlocations
    config.weakOnly config.categories
  exact ⟨scanned, _, records, _, hscanned, hresults.selectFindings_eq _ _, hrecords,
    hresults.ofTable_eq, Summary.outcome_reportScan _ _⟩

/-- A table of texts is refused exactly if it does not have the column of names. Otherwise the scan
uses the location columns that are given and that the table has, in the order file, line, context,
warns about each of the others, and completes, whichever headers are the same. -/
theorem scan_completes (r : Registry) (config : ScanConfig) (t : TextTable) :
    ((∃ e, (ScanColumns.resolve config.columns t.toTable).outcome = .error e) ↔
      config.columns.name ∉ t.headers) ∧
    (config.columns.name ∉ t.headers → ScanColumns.resolve config.columns t.toTable =
      .fail (.noNameColumn config.columns.name (t.headers.map .text))) ∧
    (config.columns.name ∈ t.headers →
      ScanColumns.resolve config.columns t.toTable =
        ⟨(config.columns.locations.filter (· ∉ t.headers)).map ScanColumns.warning,
          .ok ⟨config.columns.name, config.columns.locations.filter (· ∈ t.headers)⟩⟩ ∧
      Completes r config t.toTable
        ⟨config.columns.name, config.columns.locations.filter (· ∈ t.headers)⟩) := by
  have refused (hname : config.columns.name ∉ t.headers) :
      ScanColumns.resolve config.columns t.toTable =
        .fail (.noNameColumn config.columns.name (t.headers.map .text)) :=
    if_neg fun hhas => hname (t.hasColumn_toTable_iff.1 hhas)
  refine ⟨?iff, refused, ?complete⟩
  case iff =>
    constructor
    · rintro ⟨e, he⟩ hname
      rw [ScanColumns.resolve_texts hname] at he
      cases he
    · intro hname
      exact ⟨_, by rw [refused hname]; rfl⟩
  case complete =>
    intro hname
    refine ⟨ScanColumns.resolve_texts hname, completes_of_mem r config hname ?_⟩
    intro header hmem
    exact of_decide_eq_true (List.mem_filter.1 hmem).2

/-- Settings whose columns coincide with one another, with a result column and with a field of the
records; one location column is not in the table. -/
def crossedConfig : ScanConfig where
  inputFile := Path.ofText "t.csv"
  columns := ⟨ResultColumn.name, some ResultColumn.name, some "is_weak", some "call"⟩
  weakOnly := false
  categories := some [.hashing, .hashing]
  failOnWeak := false
  outputRoot := ScanConfig.usualOutput
  registryFile := none
  taxonomy := none
  named := by decide
  categories_ne_nil := by simp

/-- A table with these columns. -/
def crossedTable : TextTable where
  headers := ["is_weak", ResultColumn.name]
  rows := [["maybe", "md5"], ["", "other"]]
  distinct := by decide
  regular := by decide

/-- The column of names is a location column as well, and a field is read from the table. -/
theorem scan_completes_crossed :
    crossedConfig.columns.name ∈ crossedTable.headers ∧
      (ScanColumns.resolve crossedConfig.columns crossedTable.toTable).records =
        [ScanColumns.warning "call"] ∧
      Completes .builtin crossedConfig crossedTable.toTable
        ⟨ResultColumn.name, [ResultColumn.name, "is_weak"]⟩ := by
  have hname : crossedConfig.columns.name ∈ crossedTable.headers := by decide
  obtain ⟨hresolve, hcompletes⟩ := (scan_completes .builtin crossedConfig crossedTable).2.2 hname
  refine ⟨hname, ?_, hcompletes⟩
  rw [hresolve]
  rfl

end CryptoAudit
