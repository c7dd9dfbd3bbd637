import CryptoAudit.Log.Record
import CryptoAudit.Text.Quoted

/-!
# Options of the command line

## Main definitions

* `OptionKey`: the options
* `Options`: what the options are set to
* `UsageError`: why a command line is refused
* `usage`, `help`: what is printed about the options
-/

namespace CryptoAudit.Command

/-- The options of the command line. -/
inductive OptionKey where
  | help
  | config
  | env
  | name
  | consoleLevel
  | fileLevel
deriving DecidableEq, Repr, Inhabited

namespace OptionKey

/-- The options in the order in which they are listed. -/
def all : List OptionKey :=
  [help, config, env, name, consoleLevel, fileLevel]

/-- The word for an option. -/
def word : OptionKey → String
  | help => "--help"
  | config => "--config"
  | env => "--env"
  | name => "--name"
  | consoleLevel => "--console-level"
  | fileLevel => "--file-level"

/-- An option as messages call it. -/
def title : OptionKey → String
  | help => "-h/--help"
  | key => key.word

end OptionKey

/-- The levels that an option may be set to. -/
def levels : List Log.Level :=
  [.debug, .info, .warning, .error, .critical]

/-! ### Errors -/

/-- Why a command line is refused. -/
inductive UsageError where
  | ambiguous (word : String) (keys : List OptionKey)
  | noValue (key : OptionKey)
  | valueForHelp (value : String)
  | notLevel (key : OptionKey) (value : String)
  | unrecognized (words : List String)
deriving DecidableEq, Repr, Inhabited

/-- The wording of an error. -/
def UsageError.message : UsageError → String
  | .ambiguous word keys =>
    "ambiguous option: " ++ word ++ " could match " ++
      String.intercalate ", " (keys.map OptionKey.word)
  | .noValue key => "argument " ++ key.title ++ ": expected one argument"
  | .valueForHelp value =>
    "argument " ++ OptionKey.help.title ++ ": ignored explicit argument " ++ Text.quote value
  | .notLevel key value =>
    "argument " ++ key.title ++ ": invalid choice: " ++ Text.quote value ++ " (choose from " ++
      String.intercalate ", " (levels.map fun l => Text.quote l.name) ++ ")"
  | .unrecognized words => "unrecognized arguments: " ++ String.intercalate " " words

/-! ### Settings -/

/-- What the options are set to. -/
structure Options where
  config : String
  environmentFile : String
  /-- The names to classify; if there are none, a table is scanned. -/
  names : List String
  consoleLevel : Log.Level
  fileLevel : Log.Level
deriving DecidableEq, Repr, Inhabited

namespace Options

/-- What the options are set to if they are not given. -/
def usual : Options :=
  ⟨"configs/scan.yaml", ".env", [], .info, .debug⟩

/-- The level with a name, as the value of an option. -/
def level (key : OptionKey) (value : String) : Except UsageError Log.Level :=
  match levels.find? (·.name = value) with
  | some l => .ok l
  | none => .error (.notLevel key value)

/-- The options with one of them set. Names add up; of all else the last value counts. -/
def set (o : Options) (key : OptionKey) (value : String) : Except UsageError Options :=
  match key with
  | .help => .error (.valueForHelp value)
  | .config => .ok { o with config := value }
  | .env => .ok { o with environmentFile := value }
  | .name => .ok { o with names := o.names ++ [value] }
  | .consoleLevel => (level key value).map fun l => { o with consoleLevel := l }
  | .fileLevel => (level key value).map fun l => { o with fileLevel := l }

end Options

/-! ### Texts -/

/-- The name of the program. -/
def programName : String := "main.py"

/-- An option for a level, with the levels to choose from. -/
def levelUsage (key : OptionKey) : String :=
  key.word ++ " \x7b" ++ String.intercalate "," (levels.map Log.Level.name) ++ "\x7d"

/-- The short text about the options. -/
def usage : String :=
  "usage: " ++ programName ++ " [-h] [--config CONFIG] [--env ENV] [--name NAME]\n" ++
    "               [" ++ levelUsage .consoleLevel ++ "]\n" ++
    "               [" ++ levelUsage .fileLevel ++ "]\n"

/-- The long text about the options. -/
def help : String :=
  usage ++
    "\nClassify cryptographic algorithm names and report weak ones\n" ++
    "\noptions:\n" ++
    "  -h, --help            show this help message and exit\n" ++
    "  --config CONFIG       Path to scan.yaml (default: configs/scan.yaml)\n" ++
    "  --env ENV             Path to .env file, loaded when present (default: .env)\n" ++
    "  --name NAME           Classify this name and exit (repeatable). Skips the\n" ++
    "                        table scan.\n" ++
    "  " ++ levelUsage .consoleLevel ++ "\n" ++
    "                        Console log level\n" ++
    "  " ++ levelUsage .fileLevel ++ "\n" ++
    "                        File log level\n"

/-- What is printed about an error. -/
def UsageError.text (e : UsageError) : String :=
  usage ++ programName ++ ": error: " ++ e.message ++ "\n"

end CryptoAudit.Command
