import CryptoAudit.Log.Context
import CryptoAudit.Log.Sink

/-!
# Log sessions

A session delivers records to a console and to a log file, each from a level of its own on. Before
it is configured, only warnings and failures reach the console, and without any decoration.

## Main definitions

* `Session`: the context, the console and the log file
* `Session.deliver`: one record delivered
* `Session.configure`: the console and the log file set up anew
-/

namespace CryptoAudit.Log

/-- Where records go, and what is added to them. -/
structure Session where
  context : Context
  /-- The level of the console; `none` before the session is configured. -/
  console : Option Level
  sink : Option Sink
  /-- Whether the reader of environment files logs warnings and failures only. -/
  quietEnvironment : Bool
deriving DecidableEq, Repr, Inhabited

/-- What a session has written: its own state, the store, and the text on the console. -/
structure Delivery where
  session : Session
  files : Files
  console : String

namespace Session

/-- The session before it is configured. -/
def start : Session :=
  ⟨.start, none, none, false⟩

/-- The logger of the session itself. -/
def loggerName : String := "infrastructure.observability.logging"

/-- Whether a logger belongs to the reader of environment files. -/
def isEnvironmentLogger (name : String) : Bool :=
  name == "dotenv" || name.startsWith "dotenv."

variable (s : Session)

/-- The least level of the records of a logger. -/
def threshold (logger : String) : Level :=
  if s.quietEnvironment && isEnvironmentLogger logger then .warning
  else if s.console.isSome then .debug
  else .warning

/-- Whether a level is at least another one. -/
def isAtLeast (l least : Level) : Bool :=
  least.rank ≤ l.rank

/-- The run, the source and the message of a record. -/
def tail (r : Record) : String :=
  "r=" ++ s.context.shown.runTag ++ " src=" ++ s.context.shown.source ++ " | " ++ r.message ++ "\n"

/-- A record as a line on the console. -/
def consoleLine (now : Moment) (r : Record) : String :=
  now.clock ++ " [" ++ r.level.name ++ "] " ++ s.tail r

/-- The name of a logger as it is shown. -/
def shownLogger (name : String) : String :=
  if name = "" then "root" else name

/-- A record as a line of a log file. -/
def fileLine (now : Moment) (r : Record) : String :=
  now.date.text ++ " " ++ now.clock ++ " [" ++ r.level.name ++ "] " ++ shownLogger r.logger ++
    " | " ++ s.tail r

/-- The text that a record puts on the console. -/
def consoleText (now : Moment) (r : Record) : String :=
  match s.console with
  | none => r.message ++ "\n"
  | some least => if isAtLeast r.level least then s.consoleLine now r else ""

/-- The store after a record. -/
def sinkFiles (now : Moment) (files : Files) (r : Record) : Files :=
  match s.sink with
  | none => files
  | some sink =>
    if isAtLeast r.level sink.level then sink.write files (s.fileLine now r) else files

/-- One record delivered: the store and the text on the console. -/
def deliver (now : Moment) (files : Files) (r : Record) : Files × String :=
  if isAtLeast r.level (s.threshold r.logger) then
    (s.sinkFiles now files r, s.consoleText now r)
  else (files, "")

/-- Records delivered one after the other. -/
def deliverAll (now : Moment) (files : Files) : List Record → Files × String
  | [] => (files, "")
  | r :: rs =>
    let (files, text) := s.deliver now files r
    let (files, more) := deliverAll now files rs
    (files, text ++ more)

/-! ### Configuring -/

/-- The log file that a session is given. -/
structure SinkRequest where
  path : Path
  level : Level
  maxBytes : Int
  backups : Int
deriving DecidableEq, Repr, Inhabited

/-- The limits of a log file if no others are given. -/
def usualMaxBytes : Int := 10000000

/-- The number of files kept aside if no other is given. -/
def usualBackups : Int := 5

/-- A path as it is shown once it counts from the root and parts of two dots are resolved. -/
def rootedText (p : Path) : String :=
  let l := p.parts.foldl Files.enter { p with parts := [] }
  if l.root ≠ .relative then l.text
  else if l.parts.isEmpty then "<cwd>"
  else "<cwd>/" ++ l.text

/-- The store in which a log file is open, with its location. -/
def openSink (files : Files) (request : SinkRequest) : Files × Except FileError Path :=
  match files.makeDirs request.path.parent with
  | (files, .error e) => (files, .error e)
  | (files, .ok ()) =>
    if Files.hasNul request.path then (files, .error .nulInPath)
    else match files.locateFile request.path with
      | .error f => (files, .error (.fault f (rootedText request.path)))
      | .ok l => (files.append l "", .ok l)

/-- The record of a session about itself. -/
def configured (level : Level) (path : Option Path) : Record :=
  ⟨.info, loggerName, "Logging configured (console_level=" ++ level.name ++ ", file=" ++
    ((path.map Path.text).getD "None") ++ ")"⟩

/-- The console and the log file set up anew. If the log file cannot be opened, the console is set
up all the same. -/
def configure (now : Moment) (files : Files) (level : Level) (request : Option SinkRequest) :
    Delivery × Except FileError Unit :=
  let s := { s with console := some level, sink := none }
  let finish (s : Session) (files : Files) : Delivery × Except FileError Unit :=
    let s := { s with quietEnvironment := true }
    let (files, text) := s.deliver now files (configured level (request.map (·.path)))
    (⟨s, files, text⟩, .ok ())
  match request with
  | none => finish s files
  | some request =>
    match openSink files request with
    | (files, .error e) => (⟨s, files, ""⟩, .error e)
    | (files, .ok l) =>
      finish { s with sink := some ⟨l, request.level, request.maxBytes, request.backups⟩ } files

end Session

end CryptoAudit.Log
