import CryptoAudit.Command.Run
import CryptoAudit.Proofs.Scan.Record
import CryptoAudit.Proofs.Scan.Summary
import CryptoAudit.Proofs.Table.Loaded

/-!
# Exit codes of scans

A scan counts the weak rows among its findings, which are selected rows of the classified table.
The settings decide whether strong rows are selected too, but that does not change the number of
weak ones. So the exit code depends only on the names of the table that denote weak entries of the
categories asked for, and on whether these count as failures. That holds of workbooks too, for
every lawful reader of them.

## Main definitions

* `nameIn`, `Table.names`: the names in the cells of a sheet
* `ScanConfig.alarms`: whether a name counts against a scan
* `Command.settings`, `Command.candidates`: the first two parts of a scan, up to its table
* `Command.Scans`: a scan that ends, with its settings, its table and its exit code

## Main results

* `Table.IsSheet.holdNames`: every row of a sheet has a name
* `HasResults.select`: selected rows of a classified table
* `HasResults.weakCount_eq`: the number of weak findings
* `Command.act_eq_scan`, `Command.scan_cases`: the steps of a run that scans and ends
* `Command.code_eq_of_scan`: the exit code from the names of the table
* `Command.exit_run_scan`: the exit code of the program
-/

namespace CryptoAudit

/-! ### Names of a sheet -/

/-- The name in a cell of a sheet: its text, or the empty name where it has none. -/
def nameIn : Value → String
  | .text s => s
  | _ => ""

/-- The names in a column, one for each row. -/
def Table.names (t : Table) (header : String) : List String :=
  ((t.column? header).getD []).map nameIn

/-- A cell that is found in a row is one of its cells. -/
theorem Table.mem_of_cell? {t : Table} {header : String} {row : List Value} {cell : Value}
    (h : t.cell? header row = some cell) : cell ∈ row := by
  obtain ⟨_, -, hmem⟩ := exists_mem_of_field? h
  exact (List.of_mem_zip hmem).2

namespace Table.IsSheet

variable {t : Table} (h : t.IsSheet)

include h

theorem isRectangular : t.IsRectangular :=
  ⟨h.regular⟩

/-- In every row of a sheet the cell under a header holds a name. -/
theorem candidateName_eq {header : String} (hheader : t.hasColumn header = true)
    {row : List Value} (hrow : row ∈ t.rows) :
    candidateName ((t.cell? header row).getD .null) =
      .ok (nameIn ((t.cell? header row).getD .null)) := by
  have hsome : (t.cell? header row).isSome = true := by
    rw [isSome_cell? (h.regular row hrow), hheader]
  obtain ⟨cell, hcell⟩ := Option.isSome_iff_exists.1 hsome
  rw [hcell, Option.getD_some]
  rcases h.texts row hrow cell (mem_of_cell? hcell) with ⟨s, rfl⟩ | rfl <;> rfl

/-- The cells of a column hold the names of its rows. -/
theorem holdNames {header : String} {cells : List Value} (hcol : t.column? header = some cells) :
    HoldNames cells (t.names header) := by
  rw [names, hcol, Option.getD_some]
  rw [column?] at hcol
  split at hcol
  · rename_i hheader
    cases hcol
    refine List.forall₂_map_right_iff.2 (List.forall₂_same.2 ?_)
    rw [List.forall_mem_map]
    exact fun row => h.candidateName_eq hheader
  · cases hcol

end Table.IsSheet

/-! ### Selected rows of a classified table -/

/-- A mask keeps of mapped items what it keeps of the items. -/
theorem map_keep {α β : Type} (f : α → β) (mask : List Bool) (xs : List α) :
    (keep mask xs).map f = keep mask (xs.map f) := by
  induction xs generalizing mask with
  | nil => rfl
  | cons x xs ih =>
    cases mask with
    | nil => rfl
    | cons b mask => cases b <;> simp_all [keep]

theorem mem_of_mem_keep {α : Type} {mask : List Bool} {xs : List α} {x : α}
    (h : x ∈ keep mask xs) : x ∈ xs := by
  rw [keep, List.mem_map] at h
  obtain ⟨⟨y, b⟩, hmem, rfl⟩ := h
  exact (List.of_mem_zip (List.mem_filter.1 hmem).1).1

/-- The columns of selected rows are the selected cells. -/
theorem Table.column?_select (t : Table) (mask : List Bool) (header : String) :
    (t.select mask).column? header = (t.column? header).map (keep mask) := by
  have hsame : (t.select mask).hasColumn header = t.hasColumn header := rfl
  rw [column?, column?, hsame]
  split
  · exact congrArg some (map_keep (fun row => (t.cell? header row).getD .null) mask t.rows)
  · rfl

namespace HasResults

variable {base t : Table} {founds : List (Option Entry)}

/-- Selected rows of a classified table are classified rows: those of the selected outcomes. -/
theorem select {headers : List String} (h : HasResults base t founds headers)
    (p : Option Entry → Bool) :
    HasResults (base.select (founds.map p)) (t.select (founds.map p)) (founds.filter p)
      headers where
  rectangular := ⟨fun row hrow => h.rectangular.rows row (mem_of_mem_keep hrow)⟩
  textHeaders := h.textHeaders
  rows := by
    rw [Table.select, length_keep (by rw [List.length_map, h.rows]), marked_map,
      List.countP_eq_length_filter]
  columns header hmem := by
    rw [Table.column?_select, h.columns header hmem, Option.map_some, resultColumn, keep_map]
    rfl
  others header hmem := by
    rw [Table.column?_select, Table.column?_select, h.others header hmem]

/-- The weak findings are the weak rows of the categories that are asked for, whether or not
strong rows are found too. -/
theorem weakCount_eq (h : HasResults base t founds resultHeaders) (weakOnly : Bool)
    (categories : Option (List Category)) :
    Command.weakCount (t.select (founds.map (isReported weakOnly categories))) =
      .ok (founds.countP (isReported true categories)) := by
  have hmask : strengthMask (t.select (founds.map (isReported weakOnly categories))) true =
      .ok ((founds.filter (isReported weakOnly categories)).map (isOfStrength true)) :=
    (h.select (isReported weakOnly categories)).strengthMask_eq true
  rw [Command.weakCount, hmask, Except.map, marked_map, List.countP_filter]
  -- A selected row is weak exactly if it would be selected with only weak rows asked for.
  congr 2
  funext found
  cases found with
  | none => rfl
  | some e => cases hweak : e.isWeak <;> simp [isOfStrength, isReported, hweak]

end HasResults

/-- Whether a name counts against a scan: it denotes a weak entry of a category that is asked
for. -/
def ScanConfig.alarms (config : ScanConfig) (raw : String) : Bool :=
  isReported true config.categories (config.registry.classify raw)

theorem ScanConfig.alarms_iff {config : ScanConfig} {raw : String} :
    config.alarms raw = true ↔ ∃ e, config.registry.classify raw = some e ∧ e.isWeak = true ∧
      (config.categories.getD [] = [] ∨ e.category ∈ config.categories.getD []) := by
  simp [alarms, isReported_eq_true_iff]

namespace Command

theorem exitCode_eq_zero_or_one (config : ScanConfig) (weak : Nat) :
    exitCode config weak = 0 ∨ exitCode config weak = 1 := by
  rw [exitCode]
  split
  · exact .inr rfl
  · exact .inl rfl

theorem exitCode_eq_one_iff {config : ScanConfig} {weak : Nat} :
    exitCode config weak = 1 ↔ config.failOnWeak = true ∧ 0 < weak := by
  simp [exitCode]

/-! ### The steps of a scan -/

/-- Load the settings of a scan. -/
def settings (now : Moment) (env : Environment) (o : Options) : Action ScanConfig := do
  let env ← Action.perform now .environment
    (Environment.load (← Action.files) env (Path.ofText o.environmentFile))
  let path := Path.ofText o.config
  let files ← Action.files
  Action.ofExcept .file (files.require path "scan.yaml")
  Action.perform now .settings (loadScanConfig files env path)

/-- Make the directory of a scan and read its table. -/
def candidates (now : Moment) (workbooks : WorkbookReader) (o : Options) (config : ScanConfig) :
    Action Table := do
  begin now o config (runDirectory now config)
  Action.tell now .info ("Loading candidate names from " ++ config.inputFile.text ++ "...")
  Action.ofExcept .table (Table.read (← Action.files) config.inputFile workbooks)

/-- Without names on the command line the program loads settings and scans. -/
theorem act_eq_scan (now : Moment) (env : Environment) (workbooks : WorkbookReader) {o : Options}
    (hnames : o.names = []) :
    act now env workbooks o = settings now env o >>= scan now workbooks o := by
  simp [act, settings, hnames]

/-- A table that was scanned had been read before, and its columns had been found. -/
theorem scanTable_cases {now : Moment} {workbooks : WorkbookReader} {o : Options}
    {config : ScanConfig} {s s₁ s₂ : State} {found : ScanColumns × Table}
    (hbegin : (begin now o config (runDirectory now config)).exec s = (.ok (), s₁))
    (h : (scanTable now workbooks config).exec s₁ = (.ok found, s₂)) :
    ∃ t s', (candidates now workbooks o config).exec s = (.ok t, s') ∧
      (ScanColumns.resolve config.columns t).outcome = .ok found.1 ∧
      (classifyTable config.registry t found.1.name).outcome = .ok found.2 := by
  rw [scanTable] at h
  obtain ⟨_, s₃, htell, h⟩ := Action.exec_bind_eq_ok_iff.1 h
  obtain ⟨files, s₄, hfiles, h⟩ := Action.exec_bind_eq_ok_iff.1 h
  obtain ⟨t, s₅, hread, h⟩ := Action.exec_bind_eq_ok_iff.1 h
  obtain ⟨_, _, -, h⟩ := Action.exec_bind_eq_ok_iff.1 h
  obtain ⟨columns, _, hcolumns, h⟩ := Action.exec_bind_eq_ok_iff.1 h
  obtain ⟨scanned, _, hscanned, h⟩ := Action.exec_bind_eq_ok_iff.1 h
  cases h
  refine ⟨t, s₅, ?_, Action.outcome_of_exec_perform hcolumns,
    Action.outcome_of_exec_perform hscanned⟩
  rw [candidates, Action.exec_bind_ok hbegin, Action.exec_bind_ok htell,
    Action.exec_bind_ok hfiles, hread]

/-- A scan that ends has read a table, and the findings of the classified table decide the exit
code. -/
theorem scan_cases {now : Moment} {workbooks : WorkbookReader} {o : Options} {config : ScanConfig}
    {s s' : State} {code : Nat} (h : (scan now workbooks o config).exec s = (.ok code, s')) :
    ∃ t s₁ columns scanned found weak,
      (candidates now workbooks o config).exec s = (.ok t, s₁) ∧
      (ScanColumns.resolve config.columns t).outcome = .ok columns ∧
      (classifyTable config.registry t columns.name).outcome = .ok scanned ∧
      selectFindings config.weakOnly config.categories scanned = .ok found ∧
      weakCount found = .ok weak ∧ code = exitCode config weak := by
  rw [scan] at h
  obtain ⟨_, s₁, hbegin, h⟩ := Action.exec_bind_eq_ok_iff.1 h
  obtain ⟨⟨columns, scanned⟩, s₂, hscan, h⟩ := Action.exec_bind_eq_ok_iff.1 h
  obtain ⟨t, s₃, hread, hcolumns, hscanned⟩ := scanTable_cases hbegin hscan
  obtain ⟨found, s₄, hfound, h⟩ := Action.exec_bind_eq_ok_iff.1 h
  obtain ⟨_, s₅, -, h⟩ := Action.exec_bind_eq_ok_iff.1 h
  obtain ⟨_, s₆, -, h⟩ := Action.exec_bind_eq_ok_iff.1 h
  obtain ⟨_, s₇, -, h⟩ := Action.exec_bind_eq_ok_iff.1 h
  obtain ⟨_, s₈, -, h⟩ := Action.exec_bind_eq_ok_iff.1 h
  obtain ⟨weak, s₉, hweak, h⟩ := Action.exec_bind_eq_ok_iff.1 h
  refine ⟨t, s₃, columns, scanned, found, weak, hread, hcolumns, hscanned,
    (Action.exec_ofExcept_eq_ok_iff.1 hfound).1, (Action.exec_ofExcept_eq_ok_iff.1 hweak).1, ?_⟩
  split at h
  · obtain ⟨_, s₁₀, -, h⟩ := Action.exec_bind_eq_ok_iff.1 h
    cases h
    rfl
  · cases h
    rfl

/-! ### Exit codes -/

/-- The words of a command line ask for a scan that loads the settings, reads the table and ends
with the code. -/
structure Scans (now : Moment) (files : Files) (env : Environment) (words : List String)
    (workbooks : WorkbookReader) (config : ScanConfig) (t : Table) (code : Nat) : Prop where
  exit : (run now files env words workbooks).exit = .ok code
  reads : ∃ o s₁ s₂, Request.ofWords words = .ok (.run o) ∧ o.names = [] ∧
    (settings now env o).exec ⟨Log.Session.start, files, ""⟩ = (.ok config, s₁) ∧
    (candidates now workbooks o config).exec s₁ = (.ok t, s₂)

variable {now : Moment} {files : Files} {env : Environment} {words : List String}
  {workbooks : WorkbookReader} {config : ScanConfig} {t : Table} {code : Nat}

theorem exit_run_eq_ok_iff {o : Options} (hwords : Request.ofWords words = .ok (.run o)) :
    (run now files env words workbooks).exit = .ok code ↔
      ∃ s', (act now env workbooks o).exec ⟨Log.Session.start, files, ""⟩ = (.ok code, s') := by
  have hrun : (run now files env words workbooks).exit =
      ((act now env workbooks o).exec ⟨Log.Session.start, files, ""⟩).1 := by
    rw [run, hwords]
  rw [hrun]
  constructor
  · intro h
    exact ⟨_, Prod.ext h rfl⟩
  · rintro ⟨s', h⟩
    rw [h]

/-- A run that scans and ends has loaded settings and read a table. -/
theorem exists_scans {o : Options} (hwords : Request.ofWords words = .ok (.run o))
    (hnames : o.names = []) (hexit : (run now files env words workbooks).exit = .ok code) :
    ∃ config t, Scans now files env words workbooks config t code := by
  obtain ⟨s', h⟩ := (exit_run_eq_ok_iff hwords).1 hexit
  rw [act_eq_scan now env workbooks hnames] at h
  obtain ⟨config, s₁, hsettings, hscan⟩ := Action.exec_bind_eq_ok_iff.1 h
  obtain ⟨t, s₂, _, _, _, _, hread, -⟩ := scan_cases hscan
  exact ⟨config, t, hexit, o, s₁, s₂, hwords, hnames, hsettings, hread⟩

/-- The table of a scan is a sheet, since it was read from a file. -/
theorem Scans.isSheet (h : Scans now files env words workbooks config t code)
    (hworkbooks : workbooks.Lawful) : t.IsSheet := by
  obtain ⟨-, o, s₁, s₂, -, -, -, hread⟩ := h
  rw [candidates] at hread
  obtain ⟨_, _, -, hread⟩ := Action.exec_bind_eq_ok_iff.1 hread
  obtain ⟨_, _, -, hread⟩ := Action.exec_bind_eq_ok_iff.1 hread
  obtain ⟨stored, _, -, hread⟩ := Action.exec_bind_eq_ok_iff.1 hread
  exact Table.isSheet_of_read hworkbooks (Action.exec_ofExcept_eq_ok_iff.1 hread).1

/-- The exit code is that of the number of names in the table that count against the scan, whatever
state the scan starts from. -/
theorem code_eq_of_scan {o : Options} {s s₁ s' : State} (hsheet : t.IsSheet)
    (hread : (candidates now workbooks o config).exec s = (.ok t, s₁))
    (hscan : (scan now workbooks o config).exec s = (.ok code, s')) :
    t.hasColumn config.columns.name = true ∧
      code = exitCode config ((t.names config.columns.name).countP config.alarms) := by
  obtain ⟨t', _, columns, scanned, found, weak, hread', hcolumns, hscanned, hfound, hweak, rfl⟩ :=
    scan_cases hscan
  obtain rfl : t = t' := by
    rw [hread] at hread'
    exact Except.ok.inj (Prod.ext_iff.1 hread').1
  obtain ⟨hname, rfl⟩ := ScanColumns.resolve_eq_ok_iff.1 hcolumns
  have hsome : (t.column? config.columns.name).isSome = true := Table.isSome_column?.trans hname
  obtain ⟨cells, hcells⟩ := Option.isSome_iff_exists.1 hsome
  obtain ⟨out, hout, hresults⟩ := exists_classifyTable_of_names config.registry
    hsheet.isRectangular hcells (hsheet.holdNames hcells)
  obtain rfl : out = scanned := Except.ok.inj (hout.symm.trans hscanned)
  rw [hresults.selectFindings_eq] at hfound
  cases hfound
  have halarms : isReported true config.categories ∘ config.registry.classify = config.alarms := by
    funext raw
    rw [Function.comp_apply, ScanConfig.alarms]
  rw [hresults.weakCount_eq, List.countP_map, halarms] at hweak
  exact ⟨hname, by rw [Except.ok.inj hweak]⟩

theorem Scans.code_eq (h : Scans now files env words workbooks config t code)
    (hworkbooks : workbooks.Lawful) :
    t.hasColumn config.columns.name = true ∧
      code = exitCode config ((t.names config.columns.name).countP config.alarms) := by
  have hsheet := h.isSheet hworkbooks
  obtain ⟨hexit, o, s₁, s₂, hwords, hnames, hsettings, hread⟩ := h
  obtain ⟨s', hact⟩ := (exit_run_eq_ok_iff hwords).1 hexit
  rw [act_eq_scan now env workbooks hnames, Action.exec_bind_ok hsettings] at hact
  exact code_eq_of_scan hsheet hread hact

/-- A scan that ends without failure ends with one if weak findings are failures and a name of its
table denotes a weak entry of a category that is asked for, and else with zero. The table may come
from a workbook; its reader need only be lawful. Whether strong entries are reported does not
matter, and neither do the other rows of the table: two scans in which weak findings are both
failures or both not end with one code if the names that count against them are the same. -/
theorem exit_run_scan {o : Options} (hworkbooks : workbooks.Lawful)
    (hwords : Request.ofWords words = .ok (.run o)) (hnames : o.names = [])
    (hexit : (run now files env words workbooks).exit = .ok code) :
    ∃ config t, Scans now files env words workbooks config t code ∧ t.IsSheet ∧
      t.hasColumn config.columns.name = true ∧ (code = 0 ∨ code = 1) ∧
      (code = 1 ↔ config.failOnWeak = true ∧ ∃ raw ∈ t.names config.columns.name,
        ∃ e, config.registry.classify raw = some e ∧ e.isWeak = true ∧
          (config.categories.getD [] = [] ∨ e.category ∈ config.categories.getD [])) ∧
      ∀ {now' files' env' words' workbooks' config' t' code'}, workbooks'.Lawful →
        Scans now' files' env' words' workbooks' config' t' code' →
        config'.failOnWeak = config.failOnWeak →
        (t'.names config'.columns.name).filter config'.alarms =
          (t.names config.columns.name).filter config.alarms →
        code' = code := by
  obtain ⟨config, t, hscans⟩ := exists_scans hwords hnames hexit
  obtain ⟨hcol, hcode⟩ := hscans.code_eq hworkbooks
  refine ⟨config, t, hscans, hscans.isSheet hworkbooks, hcol, ?_, ?_, ?_⟩
  · rw [hcode]
    exact exitCode_eq_zero_or_one _ _
  · rw [hcode, exitCode_eq_one_iff, List.countP_pos_iff]
    simp only [ScanConfig.alarms_iff]
  · intro now' files' env' words' workbooks' config' t' code' hworkbooks' hscans' hfail hfilter
    rw [(hscans'.code_eq hworkbooks').2, hcode, List.countP_eq_length_filter,
      List.countP_eq_length_filter, hfilter, exitCode, exitCode, hfail]

/-- A command line that names settings and logs little. -/
def quietWords : List String :=
  ["--config=s", "--console-level=CRITICAL", "--file-level=CRITICAL"]

/-- What this command line asks for. -/
def quietOptions : Options :=
  { Options.usual with config := "s", consoleLevel := .critical, fileLevel := .critical }

/-- The bytes of a number, the highest first. -/
def bytesOf (count n : Nat) : List UInt8 :=
  (List.range count).map fun i => UInt8.ofNat (n >>> (8 * (count - 1 - i)))

/-- A workbook: an archive with a sheet that has a number as its second header. -/
def alarmingWorkbook : Content :=
  .binary ([
    0x504b0304140000000800000021008c800fc9a1000000d4000000130000005b436f,
    0x6e74656e745f54797065735d2e786d6c5d8fc10e823010447f855b0f862ef1e0c1,
    0x0017efeac11f58db051a68b76957c4bf17f0e6693299cc9b4cfdf844cac5e2a790,
    0x1b3588c43340360379cc9a238535e9387994d5a61e229a117b8263559dc070100a,
    0x52cac6506d7d9b292567a9b863922b7a6a142c13bc398d4fe651af2c555c7ea56d,
    0xb75118e3e40c8ae30073b07f8b25779d3364d9bcfc5ad13926429b0722f193de55,
    0x7b74e1b081a1ad613fd37e01504b030414000000080000002100a841127c8c0000,
    0x00dc0000000f000000786c2f776f726b626f6f6b2e786d6c8d8f310ec2300c45af,
    0x92cd1b2e0c0c55db8985991384d62551eb38b283e0f89496ee4c5fcfb69ef59b97,
    0xe8741799dc9be7642d8452728d687d20f676904c69d98ca2eccb82fa40cb4a7eb0,
    0x405478c653559d917d4cb0196afdc721e3187bba48ff644a659328cdbe44491662,
    0x36e89af583fdd225cfd4c20ddc8ad7a1852338ade3f01d62d7e07e8e7ba3ee0350,
    0x4b03041400000008000000210083b152c783000000de0000001a000000786c2f5f,
    0x72656c732f776f726b626f6f6b2e786d6c2e72656c738dcfb10ec22010c6f15761,
    0x63eb350e0e8632b9b86a5f80e015480b47b833eadbcb581307c72fffe4977ce68a,
    0x9b93448563aaac5e792b3ce928524f00ec2366c703552cbd2cd4b2933e5b80eafc,
    0xea02c2611c8fd0f686b6666faacb7dd237ade677c57f605a96e4f14cfe91b1c80f,
    0x1f9ed4568e88d251d7024af787ae68b006beeed80f504b03041400000008000000,
    0x21002321409f81000000d700000008000000786c2f532e786d6c658f490ac3300c,
    0x45af929d7795311da0285ef522c271ebd278c012498f5fd78bd061f9dfff0f215c,
    0x737d70f05e86679c138f2a88943300bbe023f12e179f5a73cd3592b4586fc0a57a,
    0x9aba1467305a1f21d23d298b9d5d48c862cdab4537c8a8586aab164b088b45700d,
    0xbfa3d166bf11e8f37f274e876febf4a3c0c749d87eb12f504b0102140014000000,
    0x0800000021008c800fc9a1000000d4000000130000000000000000000000000000,
    0x0000005b436f6e74656e745f54797065735d2e786d6c504b010214001400000008,
    0x0000002100a841127c8c000000dc0000000f00000000000000000000000000d200,
    0x0000786c2f776f726b626f6f6b2e786d6c504b0102140014000000080000002100,
    0x83b152c783000000de0000001a000000000000000000000000008b010000786c2f,
    0x5f72656c732f776f726b626f6f6b2e786d6c2e72656c73504b0102140014000000,
    0x0800000021002321409f81000000d7000000080000000000000000000000000046,
    0x020000786c2f532e786d6c504b05060000000004000400fc000000ed0200000000].flatMap (bytesOf 33))

/-- The table on its sheet. The number below the headers is read as a text. -/
def alarmingTable : Table :=
  ⟨[.text "a", .int 2024], [[.text "md5", .text "7"]]⟩

/-- A reader that knows this workbook. -/
def alarmingReader : WorkbookReader := fun content =>
  if content = alarmingWorkbook then .ok alarmingTable else WorkbookReader.none content

theorem lawful_alarmingReader : alarmingReader.Lawful := by
  intro content t h
  rw [alarmingReader] at h
  split at h
  · cases h
    exact ⟨by decide, by decide, by simp [alarmingTable]⟩
  · cases h

/-- The workbook, with settings in which weak findings are failures. -/
def workbookFiles : Files :=
  ⟨[(Path.ofText "s",
      .file (.text "input_file: t.xlsx\nname_col: a\ndata_dir: .\nfail_on_weak: yes")),
    (Path.ofText "t.xlsx", .file alarmingWorkbook)]⟩

/-- The scan of the workbook ends with one, because a name on its sheet counts against it. -/
theorem exit_run_scan_alarming :
    alarmingReader.Lawful ∧ Request.ofWords quietWords = .ok (.run quietOptions) ∧
      quietOptions.names = [] ∧
      (run ⟨⟨2024, 1, 2⟩, 3, 4, 5, 0, none⟩ workbookFiles [] quietWords alarmingReader).exit =
        .ok 1 ∧
      ∃ config t,
        Scans ⟨⟨2024, 1, 2⟩, 3, 4, 5, 0, none⟩ workbookFiles [] quietWords alarmingReader config t
          1 ∧
        config.failOnWeak = true ∧ ∃ raw ∈ t.names config.columns.name,
          ∃ e, config.registry.classify raw = some e ∧ e.isWeak = true := by
  have hwords : Request.ofWords quietWords = .ok (.run quietOptions) := by decide +kernel
  have hnames : quietOptions.names = [] := rfl
  have hexit :
      (run ⟨⟨2024, 1, 2⟩, 3, 4, 5, 0, none⟩ workbookFiles [] quietWords alarmingReader).exit =
        .ok 1 := eq_ok_of_toOption (by decide +kernel)
  obtain ⟨config, t, hscans, -, -, -, hone, -⟩ :=
    exit_run_scan lawful_alarmingReader hwords hnames hexit
  obtain ⟨hfail, raw, hraw, e, he, hweak, -⟩ := hone.1 rfl
  exact ⟨lawful_alarmingReader, hwords, hnames, hexit, config, t, hscans, hfail, raw, hraw, e, he,
    hweak⟩

end Command

end CryptoAudit
