import CryptoAudit.Files.Store
import CryptoAudit.Taxonomy.Error
import CryptoAudit.Yaml.Fault

/-!
# Errors of settings

## Main definitions

* `SettingsError`: why settings cannot be loaded
* `SettingsError.message`: the wording of an error
-/

namespace CryptoAudit

/-- Why settings cannot be loaded. -/
inductive SettingsError where
  | noFile (path : String)
  | unreadable (e : FileError)
  | malformed (f : Yaml.Fault)
  | notMapping (path typeText : String)
  | missingKey (key : String)
  | notPath (v : Value)
  | notJoinable (v : Value)
  | tooManyDigits
  | categoriesNotList
  | invalidColumns (errors : List FieldError)
  | invalidConfig (errors : List FieldError)
  | taxonomy (e : TaxonomyError)

namespace SettingsError

/-- The complaint about a value where a path is expected. -/
def notPathMessage (v : Value) : String :=
  match v with
  | .bytes _ =>
    "argument should be a str object or an os.PathLike object returning str, not " ++ v.typeText
  | _ => "expected str, bytes or os.PathLike object, not " ++ v.typeName

/-- The wording of an error. -/
def message : SettingsError → String
  | .noFile path => "Config file not found: " ++ path
  | .unreadable e => e.message
  | .malformed f => f.message
  | .notMapping path typeText => "Expected YAML dict in " ++ path ++ ", got " ++ typeText
  | .missingKey key => "scan.yaml missing required key: " ++ key
  | .notPath v => notPathMessage v
  | .notJoinable v =>
    "unsupported operand type(s) for /: 'PosixPath' and '" ++ v.qualifiedTypeName ++ "'"
  | .tooManyDigits => tooManyDigitsMessage
  | .categoriesNotList => "categories must be a list of category names"
  | .invalidColumns errors => linesOfErrors errors
  | .invalidConfig errors => linesOfErrors errors
  | .taxonomy e => e.message

end SettingsError

end CryptoAudit
