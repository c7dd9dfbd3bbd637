import CryptoAudit.Proofs.Outcome
import CryptoAudit.Proofs.Path
import CryptoAudit.Settings.Config

/-!
# Settings and their snapshots

Settings that pass validation are in a normal form: the name column is not blank, location columns
are not blank, and a list of categories is not empty. Written as a value, and read again from that
value, such settings are what they were, but for the taxonomy, which is not written.

## Main definitions

* `givenColumn`: the column that a value names
* `ColumnsInput.Gives`: columns that a list of fields gives, read already or not
* `ScanInput.HasProperPaths`: the paths among the given values are proper

## Main results

* `Columns.make_eq_ok_iff`: validation field by field
* `Columns.readColumns_toValue`: columns without blank locations are read back
* `ScanConfig.read_toValue`: settings with proper paths are read back
* `ScanConfig.normalForm_of_make`: the normal form of validated settings and of their snapshot
-/

namespace CryptoAudit

theorem Text.isBlankText_eq_false_iff {s : String} :
    isBlankText s = false ↔ ∃ c ∈ s.toList, isBlank c = false := by
  simp [isBlankText]

/-- The column that a value names: its text, if that is not blank. -/
def givenColumn (v : Option Value) : Option String :=
  v.bind fun v => (readText v).toOption.filter fun s => s.toList.any fun c => !Text.isBlank c

/-! ### Columns -/

namespace Columns

theorem make_eq_ok_iff {name file line context : Option Value} {c : Columns} :
    make name file line context = .ok c ↔
      required readText name = .ok c.name ∧ readOptional file = .ok c.file ∧
        readOptional line = .ok c.line ∧ readOptional context = .ok c.context := by
  rw [make]
  constructor
  · intro h
    split at h
    · cases h
      exact ⟨‹_›, ‹_›, ‹_›, ‹_›⟩
    · cases h
  · rintro ⟨hname, hfile, hline, hcontext⟩
    rw [hname, hfile, hline, hcontext]

/-- A location column that was read is the one that was given. -/
theorem eq_givenColumn {v : Option Value} {column : Option String}
    (h : readOptional v = .ok column) : column = givenColumn v := by
  unfold readOptional at h
  split at h
  · cases h
    rfl
  · cases h
    rfl
  · rename_i v _
    rw [givenColumn, Option.bind_some]
    cases hv : readText v with
    | error e =>
      rw [hv] at h
      cases h
    | ok s =>
      rw [hv] at h
      cases h
      cases hs : Text.isBlankText s with
      | true =>
        have hany : (s.toList.any fun c => !Text.isBlank c) = false := by
          simpa [Text.isBlankText] using hs
        simp [Except.toOption, Option.filter, hany, hs]
      | false =>
        have hany : (s.toList.any fun c => !Text.isBlank c) = true := by
          simpa [Text.isBlankText] using hs
        simp [Except.toOption, Option.filter, hany, hs]

/-- The location columns of columns that were read, in order. -/
theorem locations_of_read {fields : List (Value × Value)} {c : Columns} (h : read fields = .ok c) :
    c.locations = ["file_col", "line_col", "context_col"].filterMap fun key =>
      givenColumn (field? (.text key) fields) := by
  obtain ⟨-, hfile, hline, hcontext⟩ := make_eq_ok_iff.1 h
  simp only [locations, eq_givenColumn hfile, eq_givenColumn hline, eq_givenColumn hcontext,
    List.filterMap_cons, List.filterMap_nil, id_eq]

/-- No location column is blank. -/
def IsNormal (c : Columns) : Prop :=
  ∀ s, c.file = some s ∨ c.line = some s ∨ c.context = some s → Text.isBlankText s = false

theorem isNormal_of_read {fields : List (Value × Value)} {c : Columns} (h : read fields = .ok c) :
    c.IsNormal := by
  obtain ⟨-, hfile, hline, hcontext⟩ := make_eq_ok_iff.1 h
  rintro s (hs | hs | hs)
  · exact readOptional_notBlank (hfile.trans (congrArg Except.ok hs))
  · exact readOptional_notBlank (hline.trans (congrArg Except.ok hs))
  · exact readOptional_notBlank (hcontext.trans (congrArg Except.ok hs))

/-- A column that is written is read back, unless it is blank. -/
theorem readOptional_written {column : Option String}
    (h : ∀ s, column = some s → Text.isBlankText s = false) :
    readOptional (some ((column.map Value.text).getD .null)) = .ok column := by
  cases column with
  | none => rfl
  | some s =>
    change Except.ok (if Text.isBlankText s = true then none else some s) = _
    rw [h s rfl]
    rfl

theorem readColumns_toValue {c : Columns} (h : c.IsNormal) :
    ScanConfig.readColumns (some (.value c.toValue)) = .ok c := by
  have hread : make (some (.text c.name)) (some ((c.file.map Value.text).getD .null))
      (some ((c.line.map Value.text).getD .null))
      (some ((c.context.map Value.text).getD .null)) = .ok c :=
    make_eq_ok_iff.2 ⟨rfl, readOptional_written fun s hs => h s (.inl hs),
      readOptional_written fun s hs => h s (.inr (.inl hs)),
      readOptional_written fun s hs => h s (.inr (.inr hs))⟩
  exact mapError_eq_ok_iff.2 hread

end Columns

/-- Columns as a list of fields gives them: read from it already, or the list itself. -/
inductive ColumnsInput.Gives (fields : List (Value × Value)) : ColumnsInput → Prop
  | columns {c : Columns} (read : Columns.read fields = .ok c) : Gives fields (.columns c)
  | fields : Gives fields (.value (.map fields))

theorem ColumnsInput.Gives.read_eq_ok {fields : List (Value × Value)} {given : ColumnsInput}
    (h : given.Gives fields) {c : Columns} (hread : ScanConfig.readColumns (some given) = .ok c) :
    Columns.read fields = .ok c := by
  cases h with
  | columns read =>
    cases hread
    exact read
  | fields => exact mapError_eq_ok_iff.1 hread

/-- The paths among the given values are proper. -/
def ScanInput.HasProperPaths (input : ScanInput) : Prop :=
  ∀ p, input.inputFile = some (.path p) ∨ input.outputRoot = some (.path p) ∨
    input.registryFile = some (.path p) → p.IsProper

/-! ### Settings -/

namespace ScanConfig

/-! ### Single fields -/

theorem readPath_text {p : Path} (h : p.IsProper) : readPath (.text p.text) = .ok p :=
  congrArg Except.ok (Path.ofText_text h)

theorem isProper_of_readPath {v : Value} {p : Path} (hv : ∀ q, v = .path q → q.IsProper)
    (h : readPath v = .ok p) : p.IsProper := by
  cases v <;> cases h
  case text s => exact Path.isProper_ofText s
  case path => exact hv p rfl

theorem readCategory_eq_ok_iff {v : Value} {c : Category} :
    Entry.readCategory v = .ok c ↔ v = .text c.name := by
  constructor
  · intro h
    unfold Entry.readCategory at h
    split at h
    · split at h
      · cases h
        rw [Category.name_of_ofName? ‹_›]
      · cases h
    · cases h
  · rintro rfl
    simp only [Entry.readCategory, Category.ofName?_name]

/-- The names of categories are read back. -/
theorem readItems_names (i : Nat) (cs : List Category) :
    readItems i (cs.map fun c => .text c.name) = (cs, []) := by
  induction cs generalizing i with
  | nil => rfl
  | cons c cs ih =>
    rw [List.map_cons, readItems, ih, readCategory_eq_ok_iff.2 rfl]

/-- Items that were read without an error are the names of the categories. -/
theorem eq_names_of_readItems {i : Nat} {vs : List Value} {cs : List Category}
    (h : readItems i vs = (cs, [])) : vs = cs.map fun c => .text c.name := by
  induction vs generalizing i cs with
  | nil =>
    cases h
    rfl
  | cons v vs ih =>
    rw [readItems] at h
    cases hv : Entry.readCategory v with
    | error e => simp [hv] at h
    | ok c =>
      simp only [hv, Prod.mk.injEq] at h
      obtain ⟨rfl, herrors⟩ := h
      rw [List.map_cons, ← readCategory_eq_ok_iff.1 hv, ← ih (Prod.ext rfl herrors)]

/-- Categories that were read are none, or those that are listed. -/
theorem readCategories_cases {v : Option Value} {categories : Option (List Category)}
    (h : readCategories v = .ok categories) :
    (categories = none ∧ (v = none ∨ v = some .null ∨ v.bind Value.items? = some [])) ∨
      ∃ cs, cs ≠ [] ∧ categories = some cs ∧
        v.bind Value.items? = some (cs.map fun c => .text c.name) := by
  unfold readCategories at h
  split at h
  · cases h
    exact .inl ⟨rfl, .inl rfl⟩
  · cases h
    exact .inl ⟨rfl, .inr (.inl rfl)⟩
  · rename_i w _
    cases hitems : w.items? with
    | none => simp [hitems] at h
    | some vs =>
      simp only [hitems] at h
      split at h
      · rename_i cs hcs
        rw [Option.bind_some, hitems, eq_names_of_readItems hcs]
        cases cs with
        | nil =>
          cases h
          exact .inl ⟨rfl, .inr (.inr rfl)⟩
        | cons c cs =>
          cases h
          exact .inr ⟨c :: cs, List.cons_ne_nil c cs, rfl, rfl⟩
      · cases h

/-- Categories that are written are read back, unless they are an empty list. -/
theorem readCategories_written (categories : Option (List Category)) :
    categories ≠ some [] → readCategories (some (match categories with
      | none => .null
      | some cs => .list (cs.map fun c => .text c.name))) = .ok categories := by
  intro h
  cases categories with
  | none => rfl
  | some cs =>
    have hne : cs.isEmpty = false := by
      cases cs with
      | nil => exact absurd rfl h
      | cons c cs => rfl
    simp [readCategories, Value.items?, readItems_names, hne]

/-- A registry file that was read is none, or the one that a value denotes. -/
theorem readRegistryFile_cases {v : Option Value} {file : Option Path}
    (h : readRegistryFile v = .ok file) :
    file = none ∨ ∃ w p, v = some w ∧ readPath w = .ok p ∧ file = some p := by
  unfold readRegistryFile at h
  split at h
  · cases h
    exact .inl rfl
  · cases h
    exact .inl rfl
  · rename_i w _
    cases hw : readPath w with
    | error e =>
      rw [hw] at h
      cases h
    | ok p =>
      rw [hw] at h
      cases h
      exact .inr ⟨w, p, rfl, hw, rfl⟩

/-- A registry file that is written is read back. -/
theorem readRegistryFile_written {file : Option Path} (h : ∀ p, file = some p → p.IsProper) :
    readRegistryFile (some ((file.map fun p => .text p.text).getD .null)) = .ok file := by
  cases file with
  | none => rfl
  | some p =>
    change some <$> readPath (.text p.text) = _
    rw [readPath_text (h p rfl)]
    rfl

/-! ### Snapshots -/

/-- The paths of the settings are proper. -/
def HasProperPaths (config : ScanConfig) : Prop :=
  config.inputFile.IsProper ∧ config.outputRoot.IsProper ∧
    ∀ p, config.registryFile = some p → p.IsProper

theorem hasProperPaths_of_make {input : ScanInput} {config : ScanConfig}
    (hpaths : input.HasProperPaths) (h : make input = .ok config) : config.HasProperPaths := by
  obtain ⟨hinput, -, -, -, -, houtput, hfile, -⟩ := make_eq_ok_iff.1 h
  refine ⟨?input, ?output, ?file⟩
  case input =>
    cases hv : input.inputFile with
    | none =>
      rw [hv] at hinput
      cases hinput
    | some v =>
      rw [hv] at hinput
      exact isProper_of_readPath (fun q hq => hpaths q (.inl (hv.trans (congrArg some hq)))) hinput
  case output =>
    cases hv : input.outputRoot with
    | none =>
      rw [hv] at houtput
      exact Except.ok.inj houtput ▸ Path.isProper_ofText "outputs"
    | some v =>
      rw [hv] at houtput
      exact isProper_of_readPath
        (fun q hq => hpaths q (.inr (.inl (hv.trans (congrArg some hq))))) houtput
  case file =>
    intro p hp
    rcases readRegistryFile_cases hfile with hnone | ⟨v, q, hv, hread, hsome⟩
    · cases hp.symm.trans hnone
    · cases hp.symm.trans hsome
      exact isProper_of_readPath
        (fun q hq => hpaths q (.inr (.inr (hv.trans (congrArg some hq))))) hread

/-- Settings with proper paths and no blank location columns are read back from their snapshot, but
for the taxonomy. -/
theorem read_toValue {config : ScanConfig} (hpaths : config.HasProperPaths)
    (hcolumns : config.columns.IsNormal) :
    ∃ dump, config.toValue = .map dump ∧ read dump = .ok { config with taxonomy := none } := by
  refine ⟨_, rfl, make_eq_ok_iff.2 ⟨readPath_text hpaths.1, Columns.readColumns_toValue hcolumns,
    rfl, readCategories_written _ config.categories_ne_nil, rfl, readPath_text hpaths.2.1,
    readRegistryFile_written hpaths.2.2, rfl⟩⟩

/-- Validated settings are in a normal form: the name column is not blank, the location columns are
those that were given and are not blank, in order, and the categories are none or the items that
were given, which are not empty then. The snapshot of such settings is read back as the same
settings, but for the taxonomy, and so has the same snapshot. -/
theorem normalForm_of_make {input : ScanInput} {given : ColumnsInput}
    {fields : List (Value × Value)} {config : ScanConfig} (hpaths : input.HasProperPaths)
    (hgiven : input.columns = some given) (hcolumns : given.Gives fields)
    (h : make input = .ok config) :
    (∃ c ∈ config.columns.name.toList, Text.isBlank c = false) ∧
      config.columns.locations = (["file_col", "line_col", "context_col"].filterMap fun key =>
        givenColumn (field? (.text key) fields)) ∧
      ((config.categories = none ∧ (input.categories = none ∨ input.categories = some .null ∨
          input.categories.bind Value.items? = some [])) ∨
        ∃ cs, cs ≠ [] ∧ config.categories = some cs ∧
          input.categories.bind Value.items? = some (cs.map fun c => .text c.name)) ∧
      ∃ dump config', config.toValue = .map dump ∧ read dump = .ok config' ∧
        config' = { config with taxonomy := none } ∧ config'.toValue = config.toValue := by
  obtain ⟨-, hread, -, hcategories, -⟩ := make_eq_ok_iff.1 h
  rw [hgiven] at hread
  have hfields := hcolumns.read_eq_ok hread
  obtain ⟨dump, hdump, hreread⟩ :=
    read_toValue (hasProperPaths_of_make hpaths h) (Columns.isNormal_of_read hfields)
  exact ⟨Text.isBlankText_eq_false_iff.1 config.named, Columns.locations_of_read hfields,
    readCategories_cases hcategories, dump, _, hdump, hreread, rfl, rfl⟩

/-- The fields of columns, one of them blank. -/
def spelledFields : List (Value × Value) :=
  [(.text "name_col", .text " name "), (.text "line_col", .text "line"),
    (.text "file_col", .text " \t")]

/-- Settings in which nothing is spelled as it is written. -/
def spelledInput : ScanInput where
  inputFile := some (.path (Path.ofText "data//./t.csv"))
  columns := some (.value (.map spelledFields))
  weakOnly := some (.text "OFF")
  categories := some (.list [.text "Encryption", .text "Hashing"])
  failOnWeak := some (.int 1)
  outputRoot := some (.text "//out/../x/.")
  registryFile := none
  taxonomy := none

theorem normalForm_of_make_spelled :
    spelledInput.HasProperPaths ∧ spelledInput.columns = some (.value (.map spelledFields)) ∧
      ∃ config, make spelledInput = .ok config ∧ config.columns.locations = ["line"] ∧
        config.outputRoot.text = "//out/../x" ∧
        ∃ dump config', config.toValue = .map dump ∧ read dump = .ok config' ∧
          config'.toValue = config.toValue := by
  have hpaths : spelledInput.HasProperPaths := by
    rintro p (hp | hp | hp)
    · cases hp
      exact Path.isProper_ofText _
    · cases hp
    · cases hp
  have hmake : ((make spelledInput).toOption.map fun config =>
      (config.columns.locations, config.outputRoot.text)) = some (["line"], "//out/../x") := by
    decide +kernel
  obtain ⟨config, hconfig, hfields⟩ := Option.map_eq_some_iff.1 hmake
  obtain ⟨hlocations, houtput⟩ := Prod.mk.inj hfields
  obtain ⟨-, -, -, dump, config', hdump, hread, -, hsame⟩ :=
    normalForm_of_make hpaths rfl .fields (eq_ok_of_toOption hconfig)
  exact ⟨hpaths, rfl, config, eq_ok_of_toOption hconfig, hlocations, houtput, dump, config', hdump,
    hread, hsame⟩

end ScanConfig

end CryptoAudit
