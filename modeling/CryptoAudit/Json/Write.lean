import CryptoAudit.Files.Store
import CryptoAudit.Json.Render

/-!
# Files of JSON

## Main definitions

* `ArtifactError`: why a value cannot be written
* `Files.writeJson`: write a value to a file, whose directory is made if it is missing
-/

namespace CryptoAudit

/-- Why a value cannot be written. -/
inductive ArtifactError where
  | unwritable (e : FileError)
  | fault (f : Json.Fault)

/-- The wording of an error. -/
def ArtifactError.message : ArtifactError → String
  | .unwritable e => e.message
  | .fault f => f.message

namespace Files

/-- The store with the text of a value at the end of a path. If the text ends early, the file holds
what there is of it. -/
def writeJson (files : Files) (path : Path) (v : Value) : Files × Except ArtifactError Unit :=
  match files.makeDirs path.parent with
  | (files, .error e) => (files, .error (.unwritable e))
  | (files, .ok ()) =>
    let draft := Json.render v
    match files.write path (String.ofList draft.text), draft.fault with
    | .error e, _ => (files, .error (.unwritable e))
    | .ok files, none => (files, .ok ())
    | .ok files, some f => (files, .error (.fault f))

end Files

end CryptoAudit
