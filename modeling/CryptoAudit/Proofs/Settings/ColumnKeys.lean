import CryptoAudit.Proofs.Settings.Failures
import CryptoAudit.Proofs.Settings.Snapshot
import CryptoAudit.Proofs.Table.Columns
import CryptoAudit.Proofs.Text.Blank

/-!
# Keys that name columns

Four keys of the settings name columns of the table. Each of them is read on its own: what it gives
is its column, and no other setting depends on it. So a header can be given for one of the keys in
any settings that can be loaded, and the other settings stay as they are.

## Main definitions

* `ColumnKey`: the four keys
* `Columns.column?`, `Columns.setColumn`: the column of a key
* `ColumnKey.Gives`, `GivesOthers`: what some fields give for a key, and beside the four keys
* `AgreeBeside`: fields that differ in one key at most

## Main results

* `scanConfigOf_eq_ok_iff`: settings are loaded key by key
* `GivesOthers.of_agreeBeside`: what a key does not touch
* `exists_scanConfigOf_eq_ok`: a header that is given for one key
-/

namespace CryptoAudit

open Log (Logged)

/-! ### Keys and columns -/

/-- The keys of settings that name a column of the table. -/
inductive ColumnKey where
  | name
  | file
  | line
  | context
deriving DecidableEq, Repr

namespace ColumnKey

/-- The key as it is written. -/
def text : ColumnKey → String
  | name => "name_col"
  | file => "file_col"
  | line => "line_col"
  | context => "context_col"

/-- The header that is looked for when the key gives one. Only the column of names is looked for
without the blanks at the ends. -/
def sought (key : ColumnKey) (header : String) : String :=
  match key with
  | name => Text.strip header
  | _ => header

theorem sought_of_ne_name {key : ColumnKey} (h : key ≠ name) (header : String) :
    key.sought header = header := by
  cases key with
  | name => exact absurd rfl h
  | file => rfl
  | line => rfl
  | context => rfl

end ColumnKey

namespace Columns

/-- The column that a key names, if any. -/
def column? (c : Columns) : ColumnKey → Option String
  | .name => some c.name
  | .file => c.file
  | .line => c.line
  | .context => c.context

/-- The columns with another column for a key. -/
def setColumn (c : Columns) (key : ColumnKey) (header : String) : Columns :=
  match key with
  | .name => { c with name := header }
  | .file => { c with file := some header }
  | .line => { c with line := some header }
  | .context => { c with context := some header }

variable (c : Columns) {key other : ColumnKey} (header : String)

theorem column?_setColumn_self : (c.setColumn key header).column? key = some header := by
  cases key <;> rfl

theorem column?_setColumn_of_ne (h : other ≠ key) :
    (c.setColumn key header).column? other = c.column? other := by
  cases key <;> cases other <;> first | rfl | exact absurd rfl h

theorem name_setColumn_of_ne (h : key ≠ .name) : (c.setColumn key header).name = c.name :=
  Option.some.inj (c.column?_setColumn_of_ne header (Ne.symm h))

theorem mem_locations_of_column? {header : String} (hkey : key ≠ .name)
    (h : c.column? key = some header) : header ∈ c.locations := by
  rw [locations, List.mem_filterMap]
  refine ⟨c.column? key, ?_, h⟩
  cases key with
  | name => exact absurd rfl hkey
  | file => simp [column?]
  | line => simp [column?]
  | context => simp [column?]

end Columns

/-! ### What a key and what the other keys give -/

section Fields

variable {files : Files} {env : Environment} {fields fields' : List (Value × Value)}
  {config : ScanConfig} {key : ColumnKey} {header : String}

/-- The column that some fields give for a key. -/
def ColumnKey.Gives (fields : List (Value × Value)) : ColumnKey → Option String → Prop
  | .name, column => ∃ v text, presentField fields "name_col" = .ok v ∧
      writtenText v = .ok text ∧ column = some (Text.strip text)
  | key, column => Columns.readOptional (field? (.text key.text) fields) = .ok column

/-- The settings beside the columns are those that some fields give. -/
def GivesOthers (files : Files) (env : Environment) (fields : List (Value × Value))
    (config : ScanConfig) : Prop :=
  ∃ input dataDir loaded categories,
    presentField fields "input_file" = .ok input ∧
    pathField fields "data_dir" usualData = .ok dataDir ∧
    pathBelow dataDir input = .ok config.inputFile ∧
    pathField fields "output_root" ScanConfig.usualOutput = .ok config.outputRoot ∧
    (loadSource files (taxonomySource env fields)).outcome = .ok loaded ∧
    config.registryFile = loaded.map Prod.fst ∧ config.taxonomy = loaded.map Prod.snd ∧
    listedCategories fields = .ok categories ∧
    ScanConfig.readCategories categories = .ok config.categories ∧
    ScanConfig.readOr readBool true (field? (.text "weak_only") fields) = .ok config.weakOnly ∧
    ScanConfig.readOr readBool false (field? (.text "fail_on_weak") fields) =
      .ok config.failOnWeak

/-- The columns that four keys give. -/
theorem gives_iff {c : Columns} :
    (∀ key : ColumnKey, key.Gives fields (c.column? key)) ↔
      ∃ v text, presentField fields "name_col" = .ok v ∧ writtenText v = .ok text ∧
        Columns.make (some (.text (Text.strip text))) (field? (.text "file_col") fields)
          (field? (.text "line_col") fields) (field? (.text "context_col") fields) = .ok c := by
  constructor
  · intro h
    obtain ⟨v, text, hv, htext, hname⟩ := h .name
    exact ⟨v, text, hv, htext, Columns.make_eq_ok_iff.2
      ⟨congrArg Except.ok (Option.some.inj hname).symm, h .file, h .line, h .context⟩⟩
  · rintro ⟨v, text, hv, htext, hmake⟩ key
    obtain ⟨hname, hfile, hline, hcontext⟩ := Columns.make_eq_ok_iff.1 hmake
    cases key with
    | name => exact ⟨v, text, hv, htext, congrArg some (Except.ok.inj hname).symm⟩
    | file => exact hfile
    | line => exact hline
    | context => exact hcontext

theorem readRegistryFile_loaded (loaded : Option (Path × Registry)) :
    ScanConfig.readRegistryFile (loaded.map fun (path, _) => .path path) =
      .ok (loaded.map Prod.fst) := by
  cases loaded <;> rfl

theorem readTaxonomy_loaded (loaded : Option (Path × Registry)) :
    ScanConfig.readTaxonomy (loaded.map fun (_, registry) => .registry registry) =
      .ok (loaded.map Prod.snd) := by
  cases loaded <;> rfl

/-- Settings are those that some fields give exactly if each key gives its column, and the other
fields give the rest. -/
theorem scanConfigOf_eq_ok_iff :
    (scanConfigOf files env fields).outcome = .ok config ↔
      (∀ key : ColumnKey, key.Gives fields (config.columns.column? key)) ∧
        GivesOthers files env fields config := by
  rw [gives_iff]
  constructor
  · intro h
    obtain ⟨input, hinput, h⟩ := Logged.outcome_bind_eq_ok_iff.1 h
    obtain ⟨name, hname, h⟩ := Logged.outcome_bind_eq_ok_iff.1 h
    obtain ⟨dataDir, hdata, h⟩ := Logged.outcome_bind_eq_ok_iff.1 h
    obtain ⟨output, houtput, h⟩ := Logged.outcome_bind_eq_ok_iff.1 h
    obtain ⟨text, htext, h⟩ := Logged.outcome_bind_eq_ok_iff.1 h
    obtain ⟨columns, hcolumns, h⟩ := Logged.outcome_bind_eq_ok_iff.1 h
    obtain ⟨loaded, hloaded, h⟩ := Logged.outcome_bind_eq_ok_iff.1 h
    obtain ⟨categories, hlisted, h⟩ := Logged.outcome_bind_eq_ok_iff.1 h
    obtain ⟨path, hpath, h⟩ := Logged.outcome_bind_eq_ok_iff.1 h
    obtain ⟨hfile, hread, hweak, hcategories, hfail, hroot, hregistry, htaxonomy⟩ :=
      ScanConfig.make_eq_ok_iff.1 (mapError_eq_ok_iff.1 h)
    obtain rfl : path = config.inputFile := Except.ok.inj hfile
    obtain rfl : columns = config.columns := Except.ok.inj hread
    obtain rfl : output = config.outputRoot := Except.ok.inj hroot
    exact ⟨⟨name, text, hname, htext, mapError_eq_ok_iff.1 hcolumns⟩,
      input, dataDir, loaded, categories, hinput, hdata, hpath, houtput, hloaded,
      Except.ok.inj (hregistry.symm.trans (readRegistryFile_loaded loaded)),
      Except.ok.inj (htaxonomy.symm.trans (readTaxonomy_loaded loaded)),
      hlisted, hcategories, hweak, hfail⟩
  · rintro ⟨⟨name, text, hname, htext, hcolumns⟩, input, dataDir, loaded, categories, hinput,
      hdata, hpath, houtput, hloaded, hregistry, htaxonomy, hlisted, hcategories, hweak, hfail⟩
    refine Logged.outcome_bind_eq_ok_iff.2 ⟨input, hinput, ?_⟩
    refine Logged.outcome_bind_eq_ok_iff.2 ⟨name, hname, ?_⟩
    refine Logged.outcome_bind_eq_ok_iff.2 ⟨dataDir, hdata, ?_⟩
    refine Logged.outcome_bind_eq_ok_iff.2 ⟨config.outputRoot, houtput, ?_⟩
    refine Logged.outcome_bind_eq_ok_iff.2 ⟨text, htext, ?_⟩
    refine Logged.outcome_bind_eq_ok_iff.2 ⟨config.columns, mapError_eq_ok_iff.2 hcolumns, ?_⟩
    refine Logged.outcome_bind_eq_ok_iff.2 ⟨loaded, hloaded, ?_⟩
    refine Logged.outcome_bind_eq_ok_iff.2 ⟨categories, hlisted, ?_⟩
    refine Logged.outcome_bind_eq_ok_iff.2 ⟨config.inputFile, hpath, ?_⟩
    refine mapError_eq_ok_iff.2 (ScanConfig.make_eq_ok_iff.2 ⟨rfl, rfl, hweak, hcategories, hfail,
      rfl, ?_, ?_⟩)
    · rw [hregistry]
      exact readRegistryFile_loaded loaded
    · rw [htaxonomy]
      exact readTaxonomy_loaded loaded

theorem outcome_loadScanConfig {path : Path} (h : loadFields files path = .ok fields) :
    (loadScanConfig files env path).outcome = (scanConfigOf files env fields).outcome :=
  Logged.outcome_bind_ok h

/-! ### One key of several -/

/-- Some fields give the same as others for each key but one. -/
def AgreeBeside (key : ColumnKey) (fields fields' : List (Value × Value)) : Prop :=
  ∀ other, other ≠ key.text → field? (.text other) fields = field? (.text other) fields'

theorem agreeBeside_setField (key : ColumnKey) (v : Value) (fields : List (Value × Value)) :
    AgreeBeside key (setField (.text key.text) v fields) fields := by
  intro other hother
  rw [field?_setField_text, if_neg (Ne.symm hother)]

theorem ColumnKey.text_injective {key other : ColumnKey} (h : other.text = key.text) :
    other = key := by
  cases key <;> cases other <;> first | rfl | exact absurd h (by decide)

theorem presentField_congr {name : String}
    (h : field? (.text name) fields = field? (.text name) fields') :
    presentField fields name = presentField fields' name := by
  rw [presentField, presentField, h]

theorem pathField_congr {name : String} {usual : Path}
    (h : field? (.text name) fields = field? (.text name) fields') :
    pathField fields name usual = pathField fields' name usual := by
  rw [pathField, pathField, h]

theorem taxonomySource_congr
    (h : field? (.text "registry_file") fields = field? (.text "registry_file") fields') :
    taxonomySource env fields = taxonomySource env fields' := by
  rw [taxonomySource, taxonomySource, taxonomySource.fromFields, taxonomySource.fromFields, h]

theorem listedCategories_congr
    (h : field? (.text "categories") fields = field? (.text "categories") fields') :
    listedCategories fields = listedCategories fields' := by
  rw [listedCategories, listedCategories, h]

/-- Keys give the same columns in fields that agree on them. -/
theorem ColumnKey.Gives.of_eq {column : Option String} (h : key.Gives fields' column)
    (heq : field? (.text key.text) fields = field? (.text key.text) fields') :
    key.Gives fields column := by
  cases key with
  | name =>
    obtain ⟨v, text, hv, htext, hcolumn⟩ := h
    exact ⟨v, text, (presentField_congr heq).trans hv, htext, hcolumn⟩
  | file => exact (congrArg Columns.readOptional heq).trans h
  | line => exact (congrArg Columns.readOptional heq).trans h
  | context => exact (congrArg Columns.readOptional heq).trans h

/-- The settings beside the columns do not depend on the key of a column. -/
theorem GivesOthers.of_agreeBeside (h : GivesOthers files env fields' config)
    (hagree : AgreeBeside key fields fields') : GivesOthers files env fields config := by
  have heq : ∀ other ∈ ["input_file", "data_dir", "output_root", "registry_file", "categories",
      "weak_only", "fail_on_weak"],
      field? (.text other) fields = field? (.text other) fields' := by
    intro other hother
    refine hagree other ?_
    rintro rfl
    revert hother
    cases key <;> decide
  rw [GivesOthers, presentField_congr (heq "input_file" (by decide)),
    pathField_congr (heq "data_dir" (by decide)), pathField_congr (heq "output_root" (by decide)),
    taxonomySource_congr (heq "registry_file" (by decide)),
    listedCategories_congr (heq "categories" (by decide)), heq "weak_only" (by decide),
    heq "fail_on_weak" (by decide)]
  exact h

/-- A key that gives a text has the header that is sought as its column. -/
theorem ColumnKey.gives_text (h : field? (.text key.text) fields = some (.text header))
    (hheader : Text.isBlankText header = false) : key.Gives fields (some (key.sought header)) := by
  have hlocation : Columns.readOptional (some (.text header)) = .ok (some header) :=
    Columns.readOptional_written fun s hs => Option.some.inj hs ▸ hheader
  cases key with
  | name =>
    have hne : header ≠ "" := by
      rintro rfl
      cases hheader
    have htruthy : (Value.text header).isTruthy = true := by simp [Value.isTruthy, hne]
    exact ⟨.text header, header, presentField_eq_ok_iff.2 ⟨h, htruthy⟩, rfl, rfl⟩
  | file => exact (congrArg Columns.readOptional h).trans hlocation
  | line => exact (congrArg Columns.readOptional h).trans hlocation
  | context => exact (congrArg Columns.readOptional h).trans hlocation

/-- If the fields beside a key are those of settings that can be loaded, and the key gives a header,
then the same settings with that column are loaded. -/
theorem exists_scanConfigOf_eq_ok {base : ScanConfig}
    (hbase : (scanConfigOf files env fields').outcome = .ok base)
    (hagree : AgreeBeside key fields fields')
    (hkey : field? (.text key.text) fields = some (.text header))
    (hheader : Text.isBlankText header = false) :
    ∃ config, (scanConfigOf files env fields).outcome = .ok config ∧
      config.columns = base.columns.setColumn key (key.sought header) ∧
      config = { base with columns := config.columns, named := config.named } := by
  obtain ⟨hcolumns, hothers⟩ := scanConfigOf_eq_ok_iff.1 hbase
  have hnamed : Text.isBlankText (base.columns.setColumn key (key.sought header)).name = false := by
    cases key with
    | name => exact (Text.isBlankText_strip header).trans hheader
    | file => exact base.named
    | line => exact base.named
    | context => exact base.named
  let config : ScanConfig :=
    { base with columns := base.columns.setColumn key (key.sought header), named := hnamed }
  have hothers' : GivesOthers files env fields config := hothers.of_agreeBeside hagree
  refine ⟨config, scanConfigOf_eq_ok_iff.2 ⟨fun other => ?_, hothers'⟩, rfl, rfl⟩
  by_cases hother : other = key
  · subst hother
    rw [Columns.column?_setColumn_self]
    exact other.gives_text hkey hheader
  · rw [Columns.column?_setColumn_of_ne _ _ hother]
    exact (hcolumns other).of_eq (hagree _ fun htext => hother (ColumnKey.text_injective htext))

end Fields

end CryptoAudit
