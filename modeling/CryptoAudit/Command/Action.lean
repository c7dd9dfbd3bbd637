import CryptoAudit.Environment.Load
import CryptoAudit.Json.Write
import CryptoAudit.Log.Session
import CryptoAudit.Scan.Columns
import CryptoAudit.Scan.Report
import CryptoAudit.Settings.Error
import CryptoAudit.Table.Read

/-!
# Actions of the program

An action changes the log session and the file store, writes on the console, and ends with a
result or a failure. What it has done until a failure stays done.

## Main definitions

* `Failure`: why the program fails
* `State`: what actions change
* `Action`: an action
* `Action.exec`: an action done from a state
* `Action.perform`, `Action.change`, `Action.configure`: the actions that others are made of

## Main results

* `Action.exec_bind_ok`, `Action.exec_bind_error`: two actions in a row
* `Action.exec_bind_eq_ok_iff`: two actions in a row that end with a result
-/

namespace CryptoAudit.Command

open Log (Logged Session)

/-- Why the program fails. -/
inductive Failure where
  | environment (e : EnvironmentError)
  | file (e : FileError)
  | settings (e : SettingsError)
  | table (e : TableError)
  | scan (e : ScanError)
  | artifact (e : ArtifactError)
  | summary (e : MissingKey)

/-- The wording of a failure. -/
def Failure.message : Failure → String
  | .environment e => e.message
  | .file e => e.message
  | .settings e => e.message
  | .table e => e.message
  | .scan e => e.message
  | .artifact e => e.message
  | .summary e => e.key

/-- What actions change. -/
structure State where
  session : Session
  files : Files
  /-- The text on the console. -/
  console : String

/-- An action with a result. -/
abbrev Action (α : Type) := ExceptT Failure (StateM State) α

namespace Action

variable {ε α β : Type}

/-- The end of an action from a state, and the state after it. -/
def exec (a : Action α) (s : State) : Except Failure α × State := StateT.run (ExceptT.run a) s

theorem exec_bind_ok {a : Action α} {f : α → Action β} {s t : State} {x : α}
    (h : a.exec s = (.ok x, t)) : (a >>= f).exec s = (f x).exec t := by
  simp only [exec, ExceptT.run_bind, StateT.run_bind] at h ⊢
  rw [h]
  rfl

theorem exec_bind_error {a : Action α} {f : α → Action β} {s t : State} {e : Failure}
    (h : a.exec s = (.error e, t)) : (a >>= f).exec s = (.error e, t) := by
  simp only [exec, ExceptT.run_bind, StateT.run_bind] at h ⊢
  rw [h]
  rfl

/-- Two actions in a row end with a result if each of them does. -/
theorem exec_bind_eq_ok_iff {a : Action α} {f : α → Action β} {s t : State} {y : β} :
    (a >>= f).exec s = (.ok y, t) ↔
      ∃ x s', a.exec s = (.ok x, s') ∧ (f x).exec s' = (.ok y, t) := by
  rcases h : a.exec s with ⟨e | x, s'⟩
  · simp [exec_bind_error h]
  · simp [exec_bind_ok h, and_assoc]

theorem exec_pure (a : α) (s : State) : (pure a : Action α).exec s = (.ok a, s) :=
  rfl

theorem exec_throw (e : Failure) (s : State) : (throw e : Action α).exec s = (.error e, s) :=
  rfl

/-- An outcome as an action. -/
def ofExcept (failure : ε → Failure) (x : Except ε α) : Action α :=
  match x with
  | .ok a => return a
  | .error e => throw (failure e)

theorem exec_ofExcept_eq_ok_iff {failure : ε → Failure} {x : Except ε α} {s t : State} {a : α} :
    (ofExcept failure x).exec s = (.ok a, t) ↔ x = .ok a ∧ s = t := by
  cases x with
  | error e => simp [ofExcept, exec_throw]
  | ok b => simp [ofExcept, exec_pure]

theorem exec_ofExcept_of_ok {failure : ε → Failure} {x : Except ε α} {a : α} (h : x = .ok a)
    (s : State) : (ofExcept failure x).exec s = (.ok a, s) :=
  exec_ofExcept_eq_ok_iff.2 ⟨h, rfl⟩

theorem exec_ofExcept_of_error {failure : ε → Failure} {x : Except ε α} {e : ε}
    (h : x = .error e) (s : State) : (ofExcept failure x).exec s = (.error (failure e), s) := by
  rw [h]
  rfl

/-- The file store. -/
def files : Action Files :=
  return (← get).files

/-- Deliver records to the session. -/
def deliver (now : Moment) (records : List Log.Record) : Action Unit :=
  modify fun s =>
    let (files, text) := s.session.deliverAll now s.files records
    { s with files := files, console := s.console ++ text }

/-- Deliver a message of the program. -/
def tell (now : Moment) (level : Log.Level) (message : String) : Action Unit :=
  deliver now [⟨level, "main", message⟩]

/-- Do a computation, and deliver its records. -/
def perform (now : Moment) (failure : ε → Failure) (x : Logged ε α) : Action α := do
  deliver now x.records
  ofExcept failure x.outcome

theorem outcome_of_exec_perform {now : Moment} {failure : ε → Failure} {x : Logged ε α}
    {s t : State} {a : α} (h : (perform now failure x).exec s = (.ok a, t)) :
    x.outcome = .ok a := by
  obtain ⟨-, s', -, h⟩ := exec_bind_eq_ok_iff.1 h
  exact (exec_ofExcept_eq_ok_iff.1 h).1

/-- Change the file store. -/
def change (failure : ε → Failure) (f : Files → Files × Except ε Unit) : Action Unit := do
  let (files, outcome) := f (← files)
  modify fun s => { s with files := files }
  ofExcept failure outcome

/-- Change what log lines name. -/
def setContext (f : Log.Context → Log.Context) : Action Unit :=
  modify fun s => { s with session := { s.session with context := f s.session.context } }

/-- Set up the console and perhaps a log file. -/
def configure (now : Moment) (level : Log.Level) (request : Option Session.SinkRequest) :
    Action Unit := do
  let s ← get
  let (d, outcome) := s.session.configure now s.files level request
  set (⟨d.session, d.files, s.console ++ d.console⟩ : State)
  ofExcept .file outcome

end Action

end CryptoAudit.Command
