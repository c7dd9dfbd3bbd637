import CryptoAudit.Log.Logged
import CryptoAudit.Value.Fields

/-!
# Reports of scans

A written summary is reported in a few lines, followed by the places of the results.

## Main definitions

* `reportScan`: the lines about a summary
-/

namespace CryptoAudit

/-- A key that a summary lacks. -/
structure MissingKey where
  key : String
deriving DecidableEq, Repr

/-- The name of the logger that reports. -/
def reportLogger : String := "application.reporting"

/-- Log one line of a report. -/
def reportLine (line : String) : Log.Logged MissingKey Unit :=
  .write .info reportLogger line

/-- The value under a key. -/
def valueAt (key : String) (v : Value) : Except MissingKey Value :=
  match v with
  | .map fields => match field? (Value.text key) fields with
    | some w => .ok w
    | none => .error ⟨key⟩
  | _ => .error ⟨key⟩

/-- A number under a key, in whole units. -/
def numberAt (key : String) (v : Value) : Except MissingKey String := do
  match ← valueAt key v with
  | .bool b => return if b then "1" else "0"
  | .float x => return match x.toRatio? with
    | some (n, d) => decimal (Int.tdiv n d)
    | none => x.toText
  | w => return w.display

/-- The lines about categories. -/
def reportCategories : List (Value × Value) → Log.Logged MissingKey Unit
  | [] => pure ()
  | (category, counts) :: rest => do
    let weak ← .ofExcept (numberAt "weak" counts)
    let strong ← .ofExcept (numberAt "strong" counts)
    reportLine ("  " ++ category.display ++ ": weak=" ++ weak ++ ", strong=" ++ strong)
    reportCategories rest

/-- The entries of a mapping. -/
def entriesOf : Value → List (Value × Value)
  | .map entries => entries
  | _ => []

/-- The lines about a summary, the number of findings and the two files of results. -/
def reportScan (summary : Value) (count : Int) (findingsPath summaryPath : Path) :
    Log.Logged MissingKey Unit := do
  reportLine "=== Scan Summary ==="
  let candidates ← .ofExcept (numberAt "candidates" summary)
  let matched ← .ofExcept (numberAt "matched" summary)
  let unmatched ← .ofExcept (numberAt "unmatched" summary)
  reportLine ("Candidates: " ++ candidates ++ " (matched=" ++ matched ++ ", unmatched=" ++
    unmatched ++ ")")
  let weak ← .ofExcept (numberAt "weak" summary)
  let strong ← .ofExcept (numberAt "strong" summary)
  reportLine ("Weak: " ++ weak ++ ", strong: " ++ strong)
  reportCategories (entriesOf (← .ofExcept (valueAt "by_category" summary)))
  let names ← .ofExcept (valueAt "weak_algorithms" summary)
  reportLine (if names.isTruthy then "Weak algorithms found: " ++ names.display
    else "No weak algorithms found.")
  reportLine "--- Artifacts ---"
  reportLine ("Findings JSON (" ++ decimal count ++ " findings): " ++ findingsPath.text)
  reportLine ("Summary JSON: " ++ summaryPath.text)

end CryptoAudit
