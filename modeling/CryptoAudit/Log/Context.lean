import CryptoAudit.Digest
import CryptoAudit.Value.Basic

/-!
# The context of log lines

Every line names the current run by a short tag, and the current source by the name of a file.
What is not known is shown as a dash.

## Main definitions

* `Context`: the run and the source
* `Context.setRun`, `Context.setSource`, `Context.clearSource`: changing them
-/

namespace CryptoAudit.Log

/-- The text for what is not known. -/
def unknown : String := "-"

/-- A text, or a dash for the empty one. -/
def orUnknown (s : String) : String :=
  if s = "" then unknown else s

/-- The run and the source that log lines name. -/
structure Context where
  runTag : String
  runId : String
  source : String
deriving DecidableEq, Repr, Inhabited

namespace Context

/-- The context in which nothing is known. -/
def start : Context :=
  ⟨unknown, unknown, unknown⟩

/-- The context of a run. -/
def setRun (c : Context) (id : String) : Context :=
  { c with runId := id, runTag := Digest.runTag id Digest.tagLength }

/-- The context of a source, which is named by the last part of its path. -/
def setSource (c : Context) (path : Path) : Context :=
  { c with source := path.name }

/-- The context without a source. -/
def clearSource (c : Context) : Context :=
  { c with source := unknown }

/-- The context as it is shown. -/
def shown (c : Context) : Context :=
  ⟨orUnknown c.runTag, orUnknown c.runId, orUnknown c.source⟩

/-- The context as a value. -/
def toValue (c : Context) : Value :=
  .map [(.text "run_tag", .text c.shown.runTag), (.text "run_id_full", .text c.shown.runId),
    (.text "source", .text c.shown.source)]

end Context

end CryptoAudit.Log
