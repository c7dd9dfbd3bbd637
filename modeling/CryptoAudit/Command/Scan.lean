import CryptoAudit.Command.Action
import CryptoAudit.Command.Options
import CryptoAudit.Scan.Finding
import CryptoAudit.Scan.Summary
import CryptoAudit.Settings.Load

/-!
# Scanning a table

A scan has a directory of its own, named for the time and the table. Into it go the settings, the
findings, the summary and the log.

## Main definitions

* `runId`, `runDirectory`: the name and the directory of a scan
* `exitCode`: what a scan ends with
* `scanTable`: the table with its names classified
* `saveFindings`, `saveSummary`: the results
* `scan`: a whole scan
-/

namespace CryptoAudit.Command

open Log (Session)

/-- The name of a scan. -/
def runId (now : Moment) (config : ScanConfig) : String :=
  padded 4 now.date.year ++ padded 2 now.date.month ++ padded 2 now.date.day ++ "_" ++
    padded 2 now.hour ++ padded 2 now.minute ++ padded 2 now.second ++ "_" ++
    config.inputFile.stem

/-- The directory of a scan. -/
def runDirectory (now : Moment) (config : ScanConfig) : Path :=
  config.outputRoot.child (runId now config)

/-- The log file in a directory. -/
def logFile (directory : Path) : Path := directory.child "run.log"

/-- The file of settings in a directory. -/
def settingsFile (directory : Path) : Path := directory.child "config.resolved.json"

/-- The file of findings in a directory. -/
def findingsFile (directory : Path) : Path := directory.child "findings.json"

/-- The file of the summary in a directory. -/
def summaryFile (directory : Path) : Path := directory.child "summary.json"

/-- The log file that a scan asks for. -/
def sinkRequest (o : Options) (directory : Path) : Session.SinkRequest :=
  ⟨logFile directory, o.fileLevel, Session.usualMaxBytes, Session.usualBackups⟩

/-- The settings as they are written beside the results, with what log lines name. -/
def settingsRecord (config : ScanConfig) (context : Log.Context) : Value :=
  match config.toValue with
  | .map fields => .map (setField (.text "run") context.toValue fields)
  | v => v

/-- The number of weak rows of a classified table. -/
def weakCount (t : Table) : Except ScanError Nat :=
  (strengthMask t true).map marked

/-- What a scan ends with: one if weak findings are failures and there are some, or else zero. -/
def exitCode (config : ScanConfig) (weak : Nat) : Nat :=
  if config.failOnWeak && 0 < weak then 1 else 0

/-- Make the directory of a scan, open its log and write down its settings. -/
def begin (now : Moment) (o : Options) (config : ScanConfig) (directory : Path) :
    Action Unit := do
  Action.change .file (·.makeDirs directory)
  Action.configure now o.consoleLevel (some (sinkRequest o directory))
  let id := runId now config
  Action.setContext fun c => (c.setRun id).setSource config.inputFile
  Action.tell now .info ("Starting scan: run_id=" ++ id ++ " (run_tag=" ++
    Digest.runTag id Digest.tagLength ++ ")")
  Action.tell now .info ("Run output directory: " ++ directory.text)
  let context := (← get).session.context
  Action.change .artifact
    (·.writeJson (settingsFile directory) (settingsRecord config context))

/-- Read the table and classify its names; the result is the columns in use and the classified
table. -/
def scanTable (now : Moment) (workbooks : WorkbookReader) (config : ScanConfig) :
    Action (ScanColumns × Table) := do
  Action.tell now .info ("Loading candidate names from " ++ config.inputFile.text ++ "...")
  let table ← Action.ofExcept .table (Table.read (← Action.files) config.inputFile workbooks)
  Action.tell now .info ("Candidate table loaded: " ++ decimal table.rows.length ++ " rows, " ++
    decimal table.headers.length ++ " columns")
  let columns ← Action.perform now .scan (ScanColumns.resolve config.columns table)
  let scanned ← Action.perform now .scan (classifyTable config.registry table columns.name)
  return (columns, scanned)

/-- Write the findings. -/
def saveFindings (now : Moment) (directory : Path) (columns : ScanColumns) (found : Table) :
    Action Unit := do
  let records ← Action.ofExcept .scan (findingRecords found columns)
  Action.change .artifact (writeRecords · records (findingsFile directory))
  Action.deliver now [savedNotice records.length (findingsFile directory)]

/-- Write the summary of a classified table, and report on it and on the number of findings. -/
def saveSummary (now : Moment) (directory : Path) (scanned : Table) (count : Nat) :
    Action Unit := do
  let summary := (← Action.ofExcept .scan (Summary.ofTable scanned)).toValue
  Action.change .artifact (·.writeJson (summaryFile directory) summary)
  Action.perform now .summary
    (reportScan summary count (findingsFile directory) (summaryFile directory))

/-- Scan the table that the settings name; the result is the exit code. -/
def scan (now : Moment) (workbooks : WorkbookReader) (o : Options) (config : ScanConfig) :
    Action Nat := do
  let directory := runDirectory now config
  begin now o config directory
  let (columns, scanned) ← scanTable now workbooks config
  let found ← Action.ofExcept .scan (selectFindings config.weakOnly config.categories scanned)
  saveFindings now directory columns found
  saveSummary now directory scanned found.rows.length
  Action.tell now .info ("Detailed log: " ++ (logFile directory).text)
  Action.setContext Log.Context.clearSource
  let weak ← Action.ofExcept .scan (weakCount found)
  if exitCode config weak ≠ 0 then
    Action.tell now .error ("fail_on_weak=True and " ++ decimal weak ++
      " weak algorithm findings were reported.")
  return exitCode config weak

end CryptoAudit.Command
