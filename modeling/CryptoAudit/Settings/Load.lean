import CryptoAudit.Environment.Basic
import CryptoAudit.Settings.Config
import CryptoAudit.Settings.Error
import CryptoAudit.Taxonomy.Config
import CryptoAudit.Yaml.Document

/-!
# Loading settings

Settings are mappings in YAML files. The taxonomy comes from the file that the environment names,
else from the file that the settings name, else it is the built-in one. Input files are found
below a data directory.

## Main definitions

* `loadTaxonomy`: the registry described by a file
* `loadScanConfig`: the settings of a scan described by a file
-/

namespace CryptoAudit

open Log (Logged)

/-- The name of the logger that speaks of settings. -/
def settingsLogger : String := "infrastructure.config.loader"

/-- The variable of the environment that names a taxonomy file. -/
def taxonomyVariable : String := "CRYPTO_TAXONOMY_FILE"

/-- The directory of input files if no other is given. -/
def usualData : Path := Path.ofText "dataset"

/-- The fields of the mapping in a file. -/
def loadFields (files : Files) (path : Path) :
    Except SettingsError (List (Value × Value)) := do
  if !(← (files.contains path).mapError .unreadable) then throw (.noFile path.text)
  let text ← (files.readLines path).mapError .unreadable
  match ← (Yaml.parse text).mapError .malformed with
  | .map fields => return fields
  | v => throw (.notMapping path.text v.typeText)

/-- The registry described by a file. -/
def loadTaxonomy (files : Files) (path : Path) : Logged SettingsError Registry := do
  let fields ← .ofExcept (loadFields files path)
  let registry ← (Registry.ofConfig (.map fields)).mapError .taxonomy
  .write .info settingsLogger
    ("Loaded taxonomy registry from " ++ path.text ++ " (" ++ decimal registry.size ++
      " entries)")
  return registry

/-- The path that a value denotes. -/
def pathOf : Value → Except SettingsError Path
  | .text s => .ok (Path.ofText s)
  | .path p => .ok p
  | v => .error (.notPath v)

/-- The path that a value denotes below a directory. -/
def pathBelow (directory : Path) : Value → Except SettingsError Path
  | .text s => .ok (directory.child s)
  | .path p => .ok (directory.join p)
  | v => .error (.notJoinable v)

/-- A field that has to be there and count as present. -/
def presentField (fields : List (Value × Value)) (name : String) :
    Except SettingsError Value :=
  match field? (.text name) fields with
  | some v => if v.isTruthy then .ok v else .error (.missingKey name)
  | none => .error (.missingKey name)

/-- The text of a value, which has to be written. -/
def writtenText (v : Value) : Except SettingsError String :=
  match v.display? with
  | some s => .ok s
  | none => .error .tooManyDigits

/-- A path given by a field, or the usual one. -/
def pathField (fields : List (Value × Value)) (name : String) (usual : Path) :
    Except SettingsError Path :=
  match field? (.text name) fields with
  | some v => pathOf v
  | none => .ok usual

/-- The value that names the taxonomy file, if any does. -/
def taxonomySource (env : Environment) (fields : List (Value × Value)) : Option Value :=
  match field? taxonomyVariable env with
  | some (s : String) => if s ≠ "" then some (.text s) else fromFields
  | none => fromFields
where
  /-- The value that the settings give. -/
  fromFields : Option Value :=
    (field? (.text "registry_file") fields).filter Value.isTruthy

/-- The taxonomy file with its registry, if a value names one. -/
def loadSource (files : Files) : Option Value → Logged SettingsError (Option (Path × Registry))
  | some v => do
    let path ← .ofExcept (pathOf v)
    let registry ← loadTaxonomy files path
    return some (path, registry)
  | none => do
    .write .debug settingsLogger "No registry_file configured; using built-in taxonomy."
    return none

/-- The categories that the settings list. -/
def listedCategories (fields : List (Value × Value)) :
    Except SettingsError (Option Value) :=
  match field? (.text "categories") fields with
  | none => .ok none
  | some .null => .ok none
  | some (.list vs) => .ok (some (.list vs))
  | some _ => .error .categoriesNotList

/-- The settings of a scan given by the fields of a mapping. -/
def scanConfigOf (files : Files) (env : Environment) (fields : List (Value × Value)) :
    Logged SettingsError ScanConfig := do
  let field (name : String) := field? (Value.text name) fields
  let inputFile ← .ofExcept (presentField fields "input_file")
  let name ← .ofExcept (presentField fields "name_col")
  let dataDir ← .ofExcept (pathField fields "data_dir" usualData)
  let output ← .ofExcept (pathField fields "output_root" ScanConfig.usualOutput)
  let name ← .ofExcept (writtenText name)
  let columns ← .ofExcept ((Columns.make (some (.text (Text.strip name)))
    (field "file_col") (field "line_col") (field "context_col")).mapError .invalidColumns)
  let source ← loadSource files (taxonomySource env fields)
  let categories ← .ofExcept (listedCategories fields)
  let input ← .ofExcept (pathBelow dataDir inputFile)
  .ofExcept ((ScanConfig.make {
    inputFile := some (.path input)
    columns := some (.columns columns)
    weakOnly := field "weak_only"
    categories := categories
    failOnWeak := field "fail_on_weak"
    outputRoot := some (.path output)
    registryFile := source.map fun (path, _) => .path path
    taxonomy := source.map fun (_, registry) => .registry registry }).mapError .invalidConfig)

/-- The settings of a scan described by a file. -/
def loadScanConfig (files : Files) (env : Environment) (path : Path) :
    Logged SettingsError ScanConfig := do
  let fields ← .ofExcept (loadFields files path)
  scanConfigOf files env fields

end CryptoAudit
