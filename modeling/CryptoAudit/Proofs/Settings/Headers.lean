import CryptoAudit.Proofs.Files.Store
import CryptoAudit.Proofs.Scan.Record
import CryptoAudit.Proofs.Settings.ColumnKeys
import CryptoAudit.Proofs.Yaml.TextMapping

/-!
# Headers as columns

A header of the table that is not blank can be given for each of the four keys, in settings that are
written in YAML. The columns that say where a candidate was found are then found under it, whatever
blanks it has. The column of names is looked for without the blanks at the ends of what is given, so
a header with such blanks is not found, and another column may be taken for it.

## Main definitions

* `Columns.ResolvesTo`: the column of a key is found in a table under a header
* `GivesHeader`: a file of settings gives a header for a key

## Main results

* `Columns.resolvesTo_iff`: which columns are found
* `exists_givesHeader`: any header can be given for any key
* `ColumnKey.maps_header`: the settings that give a header, and the column that is found
-/

namespace CryptoAudit

/-! ### Columns of a table -/

/-- In a table the columns of settings are found, and the column of a key is the one with the
header. -/
def Columns.ResolvesTo (c : Columns) (t : Table) (key : ColumnKey) (header : String) : Prop :=
  ∃ found, (ScanColumns.resolve c t).outcome = .ok found ∧ c.column? key = some header ∧
    if key = .name then found.name = header else header ∈ found.locations

theorem Columns.resolvesTo_iff {c : Columns} {t : Table} {key : ColumnKey} {header : String} :
    c.ResolvesTo t key header ↔
      c.column? key = some header ∧ t.hasColumn c.name = true ∧ t.hasColumn header = true := by
  simp only [ResolvesTo, ScanColumns.resolve_eq_ok_iff, and_assoc]
  by_cases hkey : key = .name
  · subst hkey
    simp only [if_true, column?, Option.some.injEq]
    constructor
    · rintro ⟨_, hname, rfl, rfl, -⟩
      exact ⟨rfl, hname, hname⟩
    · rintro ⟨rfl, hname, -⟩
      exact ⟨_, hname, rfl, rfl, rfl⟩
  · simp only [if_neg hkey]
    constructor
    · rintro ⟨_, hname, rfl, hcolumn, hlocation⟩
      exact ⟨hcolumn, hname, (List.mem_filter.1 hlocation).2⟩
    · rintro ⟨hcolumn, hname, hheader⟩
      exact ⟨_, hname, rfl, hcolumn,
        List.mem_filter.2 ⟨c.mem_locations_of_column? hkey hcolumn, hheader⟩⟩

/-- A file of settings gives a header for a key, and beside this key it gives settings that can be
loaded. -/
def GivesHeader (files : Files) (env : Environment) (path : Path) (key : ColumnKey)
    (header : String) (base : ScanConfig) : Prop :=
  ∃ fields fields', loadFields files path = .ok fields ∧
    field? (.text key.text) fields = some (.text header) ∧
    AgreeBeside key fields fields' ∧ (scanConfigOf files env fields').outcome = .ok base

/-- A store with one file. -/
def oneFile (text : String) : Files :=
  ⟨[(Path.ofText "s", .file (.text text))]⟩

theorem contains_oneFile (text : String) :
    (oneFile text).contains (Path.ofText "s") = .ok true := by
  rfl

/-- A text without carriage returns is read as it is. -/
theorem readLines_oneFile {text : String} (h : '\r' ∉ text.toList) :
    (oneFile text).readLines (Path.ofText "s") = .ok text := by
  have hcontent : (oneFile text).read (Path.ofText "s") = .ok (.text text) := rfl
  rw [Files.readLines, hcontent]
  simp [Content.lines?, Content.normalLines_eq_self h, bind, Except.bind, pure, Except.pure]

/-- The fields of a file that holds a mapping of texts. -/
theorem loadFields_textMapping {entries : List (String × String)}
    (hkeys : ∀ entry ∈ entries, (Yaml.escapedText entry.1).length ≤ 1024) :
    loadFields (oneFile (String.ofList (Yaml.textMapping entries))) (Path.ofText "s") =
      .ok (ofPairs (entries.map fun (key, value) => (.text key, .text value))) := by
  have hreturn : '\r' ∉ (String.ofList (Yaml.textMapping entries)).toList := by
    rw [String.toList_ofList]
    exact fun hmem => absurd (Yaml.mem_textChars hmem) (by decide)
  rw [loadFields, contains_oneFile, readLines_oneFile hreturn]
  simp only [Except.mapError, bind, Except.bind, Bool.not_true, Bool.false_eq_true, if_false,
    Yaml.parse_textMapping hkeys]
  rfl

/-- Any header can be given for any key. -/
theorem exists_givesHeader (key : ColumnKey) (header : String) :
    ∃ files path base, GivesHeader files [] path key header base := by
  let entries := [("input_file", "t"), ("name_col", "n"), (key.text, header)]
  let others : List (Value × Value) :=
    [(.text "input_file", .text "t"), (.text "name_col", .text "n")]
  have hshort : (Yaml.escapedText key.text).length ≤ 1024 := by cases key <;> decide
  have hkeys : ∀ entry ∈ entries, (Yaml.escapedText entry.1).length ≤ 1024 :=
    List.forall_mem_cons.2 ⟨by decide, List.forall_mem_cons.2 ⟨by decide,
      List.forall_mem_singleton.2 hshort⟩⟩
  have hfields : ofPairs (entries.map fun (key, value) => (Value.text key, Value.text value)) =
      setField (.text key.text) (.text header) others := rfl
  have hload := loadFields_textMapping hkeys
  rw [hfields] at hload
  have hkey : field? (.text key.text) (setField (.text key.text) (.text header) others) =
      some (.text header) := by
    rw [field?_setField_text, if_pos rfl]
  exact ⟨_, _, _, _, others, hload, hkey, agreeBeside_setField key _ others, rfl⟩

/-- Any header that is not blank can be given for any key, in settings that are then loaded with no
other change. A location column is found under the header itself. The column of names is found if
the header has no blank at its ends; else it is looked for without these blanks, and if the table
has no such column, that is an error. -/
theorem ColumnKey.maps_header (key : ColumnKey) (t : Table) (header : String)
    (hcolumn : t.hasColumn header = true) (hheader : Text.isBlankText header = false) :
    (∃ files path base, GivesHeader files [] path key header base) ∧
    ∀ files env path base, GivesHeader files env path key header base →
      ∃ config, (loadScanConfig files env path).outcome = .ok config ∧
        config = { base with columns := config.columns, named := config.named } ∧
        (∀ other ≠ key, config.columns.column? other = base.columns.column? other) ∧
        (key ≠ .name → t.hasColumn base.columns.name = true →
          config.columns.ResolvesTo t key header) ∧
        (key = .name → Text.IsTrimmed header → config.columns.ResolvesTo t key header) ∧
        (key = .name → ¬Text.IsTrimmed header →
          ¬config.columns.ResolvesTo t key header ∧
          (ScanColumns.resolve config.columns t).outcome =
            if t.hasColumn (Text.strip header) = true then
              .ok ⟨Text.strip header, config.columns.locations.filter t.hasColumn⟩
            else .error (.noNameColumn (Text.strip header) t.headers)) := by
  refine ⟨exists_givesHeader key header, ?_⟩
  rintro files env path base ⟨fields, fields', hfields, hkey, hagree, hbase⟩
  obtain ⟨config, hconfig, hcolumns, hothers⟩ :=
    exists_scanConfigOf_eq_ok hbase hagree hkey hheader
  refine ⟨config, ?loaded, hothers, ?columns, ?location, ?trimmed, ?untrimmed⟩
  case loaded => exact (outcome_loadScanConfig hfields).trans hconfig
  case columns =>
    intro other hother
    rw [hcolumns]
    exact Columns.column?_setColumn_of_ne _ _ hother
  case location =>
    intro hlocation hname
    rw [hcolumns, key.sought_of_ne_name hlocation]
    exact Columns.resolvesTo_iff.2 ⟨Columns.column?_setColumn_self _ _,
      (congrArg t.hasColumn (Columns.name_setColumn_of_ne _ _ hlocation)).trans hname, hcolumn⟩
  case trimmed =>
    rintro rfl htrimmed
    rw [hcolumns, ColumnKey.sought, Text.strip_eq_self_iff.2 htrimmed]
    exact Columns.resolvesTo_iff.2 ⟨rfl, hcolumn, hcolumn⟩
  case untrimmed =>
    rintro rfl huntrimmed
    have hname : config.columns.name = Text.strip header := by rw [hcolumns]; rfl
    refine ⟨fun hresolves => ?_, ?_⟩
    · obtain ⟨hsame, -⟩ := Columns.resolvesTo_iff.1 hresolves
      exact huntrimmed (Text.strip_eq_self_iff.1 (hname.symm.trans (Option.some.inj hsame)))
    · rw [ScanColumns.resolve, hname]
      split <;> rfl

/-- A key and its value, if both are texts. -/
def textPair? : Value × Value → Option (String × String)
  | (.text key, .text value) => some (key, value)
  | _ => none

theorem eq_of_textPair? {field : Value × Value} {key value : String}
    (h : textPair? field = some (key, value)) : field = (.text key, .text value) := by
  unfold textPair? at h
  split at h <;> cases h
  rfl

/-- A file whose fields are texts. -/
theorem loadFields_of_textPair? {files : Files} {path : Path} (entries : List (String × String))
    (h : (loadFields files path).toOption.map (·.map textPair?) = some (entries.map some)) :
    loadFields files path = .ok (entries.map fun (key, value) => (.text key, .text value)) := by
  obtain ⟨fields, hfields, hentries⟩ := Option.map_eq_some_iff.1 h
  have hsame : fields = entries.map fun (key, value) => (.text key, .text value) := by
    clear h hfields
    induction fields generalizing entries with
    | nil => rw [List.map_eq_nil_iff.1 hentries.symm]; rfl
    | cons field fields ih =>
      cases entries with
      | nil => cases hentries
      | cons entry entries =>
        obtain ⟨hfield, hmore⟩ := List.cons.inj hentries
        rw [eq_of_textPair? hfield, ih entries hmore]
        rfl
  exact hsame ▸ eq_ok_of_toOption hfields

/-- A table with a space before its first header. -/
def spacedTable : Table :=
  ⟨[.text " file", .text "algorithm"], [[.text "a.py", .text "md5"]]⟩

/-- Settings that give this header for a location column. -/
def spacedLocation : Files :=
  oneFile "input_file: t\nname_col: algorithm\nfile_col: ' file'"

/-- A location column is found with the space that its header starts with. -/
theorem ColumnKey.maps_header_spaced :
    spacedTable.hasColumn " file" = true ∧ Text.isBlankText " file" = false ∧
      ∃ base, GivesHeader spacedLocation [] (Path.ofText "s") .file " file" base ∧
        spacedTable.hasColumn base.columns.name = true ∧
        ∃ config, (loadScanConfig spacedLocation [] (Path.ofText "s")).outcome = .ok config ∧
          config.columns.ResolvesTo spacedTable .file " file" := by
  have hfields : loadFields spacedLocation (Path.ofText "s") =
      .ok [(.text "input_file", .text "t"), (.text "name_col", .text "algorithm"),
        (.text "file_col", .text " file")] :=
    loadFields_of_textPair?
      [("input_file", "t"), ("name_col", "algorithm"), ("file_col", " file")] (by decide +kernel)
  have hcolumn : spacedTable.hasColumn " file" = true := by decide +kernel
  have hname : spacedTable.hasColumn "algorithm" = true := by decide +kernel
  have hheader : Text.isBlankText " file" = false := by decide
  have hgiven : GivesHeader spacedLocation [] (Path.ofText "s") .file " file" _ :=
    ⟨_, _, hfields, rfl, agreeBeside_setField .file (.text " file")
      [(.text "input_file", .text "t"), (.text "name_col", .text "algorithm")], rfl⟩
  obtain ⟨-, hmaps⟩ := ColumnKey.maps_header .file spacedTable " file" hcolumn hheader
  obtain ⟨config, hconfig, -, -, hlocation, -⟩ := hmaps _ _ _ _ hgiven
  exact ⟨hcolumn, hheader, _, hgiven, hname, config, hconfig, hlocation nofun hname⟩

/-- Settings that give a header that starts with a space for the column of names. -/
def spacedName : Files :=
  oneFile "input_file: t\nname_col: ' algorithm'"

/-- The table of a file whose header is written with a space after the comma. -/
def listTable : Table :=
  ⟨[.text "file", .text " algorithm"], [[.text "a.py", .text "md5"]]⟩

/-- A column of names is missed if its header starts with a space. -/
theorem ColumnKey.not_maps_header_spaced :
    listTable.hasColumn " algorithm" = true ∧ Text.isBlankText " algorithm" = false ∧
      ∃ fields config, loadFields spacedName (Path.ofText "s") = .ok fields ∧
        field? (.text "name_col") fields = some (.text " algorithm") ∧
        (loadScanConfig spacedName [] (Path.ofText "s")).outcome = .ok config ∧
        (ScanColumns.resolve config.columns listTable).outcome =
          .error (.noNameColumn "algorithm" listTable.headers) := by
  have hfields : loadFields spacedName (Path.ofText "s") =
      .ok [(.text "input_file", .text "t"), (.text "name_col", .text " algorithm")] :=
    loadFields_of_textPair? [("input_file", "t"), ("name_col", " algorithm")] (by decide +kernel)
  have hheader : Text.isBlankText " algorithm" = false := by decide
  have hbase : ∃ base, (scanConfigOf spacedName []
      [(.text "input_file", .text "t"), (.text "name_col", .text "n")]).outcome = .ok base :=
    ⟨_, rfl⟩
  obtain ⟨base, hbase⟩ := hbase
  obtain ⟨config, hconfig, hcolumns, -⟩ := exists_scanConfigOf_eq_ok hbase
    (agreeBeside_setField .name (.text " algorithm") _) rfl hheader
  have hstrip : Text.strip " algorithm" = "algorithm" := by decide
  have hname : config.columns.name = "algorithm" := by rw [hcolumns, ← hstrip]; rfl
  have hmissed : listTable.hasColumn "algorithm" = false := by decide +kernel
  refine ⟨by decide +kernel, hheader, _, config, hfields, rfl, ?_, ?_⟩
  · exact (outcome_loadScanConfig hfields).trans hconfig
  · rw [ScanColumns.resolve_eq_error_iff, hname]
    exact ⟨hmissed, rfl⟩

end CryptoAudit
