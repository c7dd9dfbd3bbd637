import CryptoAudit.Value.Text

/-!
# Log records

A record has a level, the name of the logger that wrote it, and a message. Levels are ordered by
rank; five ranks and the zero have names.

## Main definitions

* `Level`, `Level.name`: levels and their names
* `Record`: one message
-/

namespace CryptoAudit.Log

/-- The severity of a record. -/
structure Level where
  rank : Int
deriving DecidableEq, Repr, Inhabited

namespace Level

/-- The level below all named ones. -/
def unset : Level := ⟨0⟩

/-- The level of details. -/
def debug : Level := ⟨10⟩

/-- The level of progress messages. -/
def info : Level := ⟨20⟩

/-- The level of suspicious facts. -/
def warning : Level := ⟨30⟩

/-- The level of failures. -/
def error : Level := ⟨40⟩

/-- The level of failures that end a program. -/
def critical : Level := ⟨50⟩

/-- The named levels, each with its name. -/
def named : List (Level × String) :=
  [(unset, "NOTSET"), (debug, "DEBUG"), (info, "INFO"), (warning, "WARNING"), (error, "ERROR"),
    (critical, "CRITICAL")]

/-- The name of a level; a level without a name is shown by its rank. -/
def name (l : Level) : String :=
  (named.lookup l).getD ("Level " ++ decimal l.rank)

/-- The level with a name. Two levels have a second name. -/
def ofName? (s : String) : Option Level :=
  match s with
  | "WARN" => some warning
  | "FATAL" => some critical
  | s => (named.find? (·.2 = s)).map (·.1)

end Level

/-- One message of one logger. -/
structure Record where
  level : Level
  logger : String
  message : String
deriving DecidableEq, Repr, Inhabited

end CryptoAudit.Log
