import CryptoAudit.Command.Names
import CryptoAudit.Command.Scan
import CryptoAudit.Command.Words

/-!
# Running the program

## Main definitions

* `Command.act`: what the program does once its options are known
* `Command.run`: the program, from the words of its command line to its result
-/

namespace CryptoAudit.Command

/-- What the program leaves behind. -/
structure Result where
  /-- The exit code, or why the program failed. -/
  exit : Except Failure Nat
  output : String
  console : String
  files : Files

/-- Load the environment file, then classify names or scan a table. -/
def act (now : Moment) (env : Environment) (workbooks : WorkbookReader) (o : Options) :
    Action Nat := do
  let env ← Action.perform now .environment
    (Environment.load (← Action.files) env (Path.ofText o.environmentFile))
  if o.names.isEmpty then
    let path := Path.ofText o.config
    let files ← Action.files
    Action.ofExcept .file (files.require path "scan.yaml")
    scan now workbooks o (← Action.perform now .settings (loadScanConfig files env path))
  else
    classifyNames now env o
    return 0

/-- The program. A command line that is refused ends it with the exit code two. Without a reader of
workbooks no file is taken for one. -/
def run (now : Moment) (files : Files) (env : Environment) (words : List String)
    (workbooks : WorkbookReader := .none) : Result :=
  match Request.ofWords words with
  | .error e => ⟨.ok 2, "", e.text, files⟩
  | .ok .help => ⟨.ok 0, help, "", files⟩
  | .ok (.run o) =>
    let (exit, final) := (act now env workbooks o).exec ⟨Log.Session.start, files, ""⟩
    ⟨exit, "", final.console, final.files⟩

end CryptoAudit.Command
