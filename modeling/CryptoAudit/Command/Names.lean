import CryptoAudit.Classify
import CryptoAudit.Command.Action
import CryptoAudit.Command.Options
import CryptoAudit.Settings.Load

/-!
# Classifying names on demand

Each name is reported in a line of its own. The registry is the one that a scan would use if there
are settings, and the built-in one otherwise.

## Main definitions

* `nameLine`: the line about a name
* `classifyNames`: the names of the command line classified
-/

namespace CryptoAudit.Command

/-- The line about a name. -/
def nameLine (r : Registry) (name : String) : String :=
  Text.quote name ++ match r.classify name with
    | none => ": no match"
    | some e => ": category=" ++ e.category.name ++ " name=" ++ e.name ++ " weak=" ++
      Value.boolText e.isWeak

/-- The registry of the settings at the end of a path, or the built-in one. -/
def registryAt (now : Moment) (env : Environment) (path : Path) : Action Registry := do
  let files ← Action.files
  if ← Action.ofExcept .file (files.contains path) then
    return (← Action.perform now .settings (loadScanConfig files env path)).registry
  else return Registry.builtin

/-- Report on the names of the command line. -/
def classifyNames (now : Moment) (env : Environment) (o : Options) : Action Unit := do
  Action.configure now o.consoleLevel none
  let registry ← registryAt now env (Path.ofText o.config)
  o.names.forM fun name => Action.tell now .info (nameLine registry name)

end CryptoAudit.Command
