import CryptoAudit.Settings.Columns
import CryptoAudit.Taxonomy.Builtin

/-!
# Scan settings

The settings of a scan: the table, its columns, what is reported, where results go, and the
taxonomy. An empty list of categories is the same as none, which means all of them.

## Main definitions

* `ScanConfig`: the settings
* `ScanConfig.make`, `ScanConfig.read`: reading the settings from values
* `ScanConfig.toValue`: the settings as they are written beside the results
-/

namespace CryptoAudit

/-- The settings of a scan. -/
structure ScanConfig where
  inputFile : Path
  columns : Columns
  weakOnly : Bool
  /-- The categories that are reported; `none` means all of them. -/
  categories : Option (List Category)
  failOnWeak : Bool
  outputRoot : Path
  registryFile : Option Path
  /-- The taxonomy; `none` means the built-in one. -/
  taxonomy : Option Registry
  named : Text.isBlankText columns.name = false
  categories_ne_nil : categories ≠ some []

/-- The columns as they are given: read already, or as a value. -/
inductive ColumnsInput where
  | columns (c : Columns)
  | value (v : Value)

/-- The taxonomy as it is given: a registry, or some other value. -/
inductive TaxonomyInput where
  | registry (r : Registry)
  | value (v : Value)

/-- The settings as they are given. -/
structure ScanInput where
  inputFile : Option Value
  columns : Option ColumnsInput
  weakOnly : Option Value
  categories : Option Value
  failOnWeak : Option Value
  outputRoot : Option Value
  registryFile : Option Value
  taxonomy : Option TaxonomyInput

/-- The settings as a list of fields gives them. -/
def ScanInput.ofFields (fields : List (Value × Value)) : ScanInput :=
  let field (name : String) := field? (Value.text name) fields
  { inputFile := field "input_file_path"
    columns := (field "columns").map .value
    weakOnly := field "weak_only"
    categories := field "categories"
    failOnWeak := field "fail_on_weak"
    outputRoot := field "output_root"
    registryFile := field "registry_file"
    taxonomy := (field "registry").map .value }

namespace ScanConfig

/-- The directory of results if no other is given. -/
def usualOutput : Path := Path.ofText "outputs"

/-- The registry that names are looked up in. -/
def registry (c : ScanConfig) : Registry :=
  c.taxonomy.getD Registry.builtin

/-- Errors below a field. -/
def below (name : String) (errors : List FieldError) : List FieldError :=
  errors.map fun e => { e with place := .field name :: e.place }

/-- The columns, or the errors in them. -/
def readColumns : Option ColumnsInput → Except (List FieldError) Columns
  | some (.columns c) => .ok c
  | some (.value (.map fields)) => (Columns.read fields).mapError (below "columns")
  | some (.value _) => .error [⟨[.field "columns"], .notColumns⟩]
  | none => .error [⟨[.field "columns"], .missing⟩]

/-- The categories among items, with an error for each item that is none. -/
def readItems : Nat → List Value → List Category × List FieldError
  | _, [] => ([], [])
  | i, v :: vs =>
    let (cs, errors) := readItems (i + 1) vs
    match Entry.readCategory v with
    | .ok c => (c :: cs, errors)
    | .error e => (cs, ⟨[.field "categories", .item i], e⟩ :: errors)

/-- The categories that are reported: those in a list, a pair or a set. -/
def readCategories : Option Value → Except (List FieldError) (Option (List Category))
  | none => .ok none
  | some .null => .ok none
  | some v => match v.items? with
    | some vs => match readItems 0 vs with
      | (cs, []) => .ok (if cs.isEmpty then none else some cs)
      | (_, errors) => .error errors
    | none => .error [⟨[.field "categories"], .notList⟩]

/-- A field with a default. -/
def readOr {α : Type} (read : Value → Except Complaint α) (usual : α) :
    Option Value → Except Complaint α
  | none => .ok usual
  | some v => read v

/-- The registry file, if one is given. -/
def readRegistryFile : Option Value → Except Complaint (Option Path)
  | none => .ok none
  | some .null => .ok none
  | some v => some <$> readPath v

/-- The taxonomy, if one is given. -/
def readTaxonomy : Option TaxonomyInput → Except Complaint (Option Registry)
  | none => .ok none
  | some (.registry r) => .ok (some r)
  | some (.value _) => .error .notRegistry

/-- The errors of an outcome. -/
def errorsOf {α : Type} : Except (List FieldError) α → List FieldError
  | .ok _ => []
  | .error errors => errors

theorem readCategories_ne_nil {v : Option Value} {cs : Option (List Category)}
    (h : readCategories v = .ok cs) : cs ≠ some [] := by
  unfold readCategories at h
  split at h
  · cases h
    simp
  · cases h
    simp
  · split at h
    · split at h
      · simp only [Except.ok.injEq] at h
        subst h
        split <;> simp_all
      · simp at h
    · simp at h

/-- The settings made of the given values, or the errors of all of them in order. The name column
is checked when all else is right. -/
def make (input : ScanInput) : Except (List FieldError) ScanConfig :=
  let file := required readPath input.inputFile
  let columns := readColumns input.columns
  let weakOnly := readOr readBool true input.weakOnly
  let failOnWeak := readOr readBool false input.failOnWeak
  let output := readOr readPath usualOutput input.outputRoot
  let registryFile := readRegistryFile input.registryFile
  let taxonomy := readTaxonomy input.taxonomy
  match file, columns, weakOnly, h : readCategories input.categories, failOnWeak, output,
    registryFile, taxonomy with
  | .ok file, .ok columns, .ok weakOnly, .ok categories, .ok failOnWeak, .ok output,
    .ok registryFile, .ok taxonomy =>
    if hn : Text.isBlankText columns.name then .error [⟨[], .noNameColumn⟩]
    else .ok {
      inputFile := file
      columns := columns
      weakOnly := weakOnly
      categories := categories
      failOnWeak := failOnWeak
      outputRoot := output
      registryFile := registryFile
      taxonomy := taxonomy
      named := by simpa using hn
      categories_ne_nil := readCategories_ne_nil h }
  | file, columns, weakOnly, categories, failOnWeak, output, registryFile, taxonomy =>
    .error (errorsAt [.field "input_file_path"] file ++ errorsOf columns ++
      errorsAt [.field "weak_only"] weakOnly ++ errorsOf categories ++
      errorsAt [.field "fail_on_weak"] failOnWeak ++ errorsAt [.field "output_root"] output ++
      errorsAt [.field "registry_file"] registryFile ++ errorsAt [.field "registry"] taxonomy)

/-- Settings are made exactly if each of their fields is read. -/
theorem make_eq_ok_iff {input : ScanInput} {config : ScanConfig} :
    make input = .ok config ↔
      required readPath input.inputFile = .ok config.inputFile ∧
      readColumns input.columns = .ok config.columns ∧
      readOr readBool true input.weakOnly = .ok config.weakOnly ∧
      readCategories input.categories = .ok config.categories ∧
      readOr readBool false input.failOnWeak = .ok config.failOnWeak ∧
      readOr readPath usualOutput input.outputRoot = .ok config.outputRoot ∧
      readRegistryFile input.registryFile = .ok config.registryFile ∧
      readTaxonomy input.taxonomy = .ok config.taxonomy := by
  unfold make
  dsimp only
  constructor
  · intro h
    split at h
    · split at h
      · cases h
      · cases h
        exact ⟨‹_›, ‹_›, ‹_›, ‹_›, ‹_›, ‹_›, ‹_›, ‹_›⟩
    · cases h
  · rintro ⟨hinput, hcolumns, hweak, hcategories, hfail, houtput, hfile, htaxonomy⟩
    split
    · rename_i hinput' hcolumns' hweak' hcategories' hfail' houtput' hfile' htaxonomy'
      obtain ⟨file, columns, weakOnly, categories, failOnWeak, output, registryFile, taxonomy,
        named, ne_nil⟩ := config
      cases hinput'.symm.trans hinput
      cases hcolumns'.symm.trans hcolumns
      cases hweak'.symm.trans hweak
      cases hcategories'.symm.trans hcategories
      cases hfail'.symm.trans hfail
      cases houtput'.symm.trans houtput
      cases hfile'.symm.trans hfile
      cases htaxonomy'.symm.trans htaxonomy
      exact dif_neg (by simp [named])
    · rename_i hnone
      exact (hnone _ _ _ _ _ _ _ _ hinput hcolumns hweak hcategories hfail houtput hfile
        htaxonomy).elim

/-- The settings that a list of fields describes; other fields are ignored. -/
def read (fields : List (Value × Value)) : Except (List FieldError) ScanConfig :=
  make (.ofFields fields)

/-- The settings as a value, without the taxonomy. -/
def toValue (c : ScanConfig) : Value :=
  let categories : Value := match c.categories with
    | none => .null
    | some cs => .list (cs.map fun c => .text c.name)
  .map [(.text "input_file_path", .text c.inputFile.text),
    (.text "columns", c.columns.toValue),
    (.text "weak_only", .bool c.weakOnly),
    (.text "categories", categories),
    (.text "fail_on_weak", .bool c.failOnWeak),
    (.text "output_root", .text c.outputRoot.text),
    (.text "registry_file", (c.registryFile.map fun p => .text p.text).getD .null)]

end ScanConfig

end CryptoAudit
