import CryptoAudit.Log.Session

/-!
# Calls of a log session

A program sets its log session up, names its run and its source, and logs. It may do so in any
order and any number of times.

## Main definitions

* `Call`: what a program asks of its log session
* `Session.call`: a call done
-/

namespace CryptoAudit.Log

/-- The context with a run and a source, where they are given. -/
def Context.set (c : Context) (run : Option String) (source : Option Path) : Context :=
  let c := match run with
    | some id => c.setRun id
    | none => c
  match source with
  | some path => c.setSource path
  | none => c

/-- What a program asks of its log session. -/
inductive Call where
  | configure (level : Level) (request : Option Session.SinkRequest)
  | setContext (run : Option String) (source : Option Path)
  | clearSource
  | log (r : Record)
deriving DecidableEq, Repr, Inhabited

/-- A call done: what it has written, and whether it succeeded. -/
def Session.call (s : Session) (now : Moment) (files : Files) :
    Call → Delivery × Except FileError Unit
  | .configure level request => s.configure now files level request
  | .setContext run source =>
    (⟨{ s with context := s.context.set run source }, files, ""⟩, .ok ())
  | .clearSource => (⟨{ s with context := s.context.clearSource }, files, ""⟩, .ok ())
  | .log r =>
    let (files, text) := s.deliver now files r
    (⟨s, files, text⟩, .ok ())

end CryptoAudit.Log
