import CryptoAudit.Environment.Expansion
import CryptoAudit.Files.Store
import CryptoAudit.Log.Logged

/-!
# Loading environments

An environment file is optional. Its bindings with a value are set into the environment and take
the place of earlier ones; each statement that cannot be read is reported and passed over.

## Main definitions

* `EnvironmentError`: why an environment file cannot be loaded
* `Environment.load`: the environment after a file has been loaded
-/

namespace CryptoAudit

open Log (Logged)

/-- Why an environment file cannot be loaded. -/
inductive EnvironmentError where
  | unreadable (e : FileError)
  | nulInVariable
  | equalsInKey
deriving DecidableEq, Repr, Inhabited

/-- The wording of an error. -/
def EnvironmentError.message : EnvironmentError → String
  | .unreadable e => e.message
  | .nulInVariable => "embedded null byte"
  | .equalsInKey => "illegal environment variable name"

namespace Environment

/-- The warning about a statement, if it cannot be read. -/
def warning? : Statement → Option Log.Record
  | .unreadable line => some ⟨.warning, "dotenv.main",
      "python-dotenv could not parse statement starting at line " ++ decimal line⟩
  | _ => none

/-- Whether a text holds a NUL character, which no variable does. -/
def hasNul (s : String) : Bool :=
  s.toList.contains '\x00'

/-- The environment with what keys are bound to; keys without a value are left alone. -/
def set (env : Environment) : Bindings → Except EnvironmentError Environment
  | [] => .ok env
  | (_, none) :: bound => set env bound
  | (key, some v) :: bound =>
    if hasNul key || hasNul v then .error .nulInVariable
    else if key.toList.contains '=' then .error .equalsInKey
    else set (setField key v env) bound

/-- The environment after the file at the end of a path has been loaded, if there is one. -/
def load (files : Files) (env : Environment) (path : Path) :
    Logged EnvironmentError Environment := do
  let isThere ← .ofExcept ((files.contains path).mapError .unreadable)
  if !isThere || files.isDirectory path then return env
  let text ← .ofExcept ((files.readLines path).mapError .unreadable)
  let ss := statements text
  .writeAll (ss.filterMap warning?)
  .ofExcept (set env (bindings env ss))

end Environment

end CryptoAudit
