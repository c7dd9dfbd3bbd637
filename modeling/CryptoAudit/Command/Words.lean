import CryptoAudit.Command.Options
import CryptoAudit.Text.Digit

/-!
# Words of the command line

A word that starts with a dash is an option, unless it looks like a negative number or holds a
space. Two dashes and the start of an option's word are enough if no other option starts so; after
an equals sign comes the value, which otherwise is the next word. A word of two dashes ends the
options.

## Main definitions

* `Word`: what a word says
* `Word.read`, `Word.readAll`: words read
* `Request.ofWords`: what a command line asks for
-/

namespace CryptoAudit.Command

open Text (isDecimalDigit)

/-- What a word of the command line says. -/
inductive Word where
  /-- An option, perhaps with a value in the same word. -/
  | option (key : OptionKey) (value : Option String)
  /-- What looks like an option and is none. -/
  | unknown (text : String)
  /-- Anything else, such as the value of an option. -/
  | plain (text : String)
deriving DecidableEq, Repr, Inhabited

/-- Whether a text is a negative number: digits, or a point with digits after it. A line end after
it does not count. -/
def isNegativeNumber (cs : List Char) : Bool :=
  let line := if cs.getLast? = some '\n' then cs.dropLast else cs
  match line with
  | '-' :: digits =>
    match digits.dropWhile isDecimalDigit with
    | [] => !digits.isEmpty
    | '.' :: fraction => !fraction.isEmpty && fraction.all isDecimalDigit
    | _ => false
  | _ => false

namespace Word

/-- The word with a dash that names no option. -/
def nameless (s : String) : Word :=
  if isNegativeNumber s.toList || s.toList.contains ' ' then .plain s else .unknown s

/-- The word with two dashes. -/
def long (s : String) : Except UsageError Word :=
  let name := String.ofList (s.toList.takeWhile (· != '='))
  let value := match s.toList.dropWhile (· != '=') with
    | [] => none
    | _ :: value => some (String.ofList value)
  match OptionKey.all.find? (·.word = name) with
  | some key => .ok (.option key value)
  | none =>
    match OptionKey.all.filter fun key => name.toList.isPrefixOf key.word.toList with
    | [] => .ok (nameless s)
    | [key] => .ok (.option key value)
    | keys => .error (.ambiguous s keys)

/-- The short word for help with what follows its first letter: a value after an equals sign or a
dash, or else more short words, of which only this one is an option. -/
def shortHelp (letters : List Char) : Word :=
  .option .help <| match letters.dropWhile (· == 'h') with
    | '=' :: value => some (String.ofList value)
    | '-' :: value => some (String.ofList ('-' :: value))
    | _ => none

/-- One word read. -/
def read (s : String) : Except UsageError Word :=
  match s.toList with
  | '-' :: '-' :: _ => long s
  | '-' :: 'h' :: letters => .ok (shortHelp letters)
  | '-' :: _ :: _ => .ok (nameless s)
  | _ => .ok (.plain s)

/-- The words read; all that come after two dashes are plain. -/
def readAll : List String → Except UsageError (List Word)
  | [] => .ok []
  | s :: words =>
    if s = "--" then .ok (.unknown s :: words.map .plain)
    else do
      let word ← read s
      return word :: (← readAll words)

end Word

/-- What a command line asks for. -/
inductive Request where
  | help
  | run (o : Options)
deriving DecidableEq, Repr, Inhabited

namespace Request

/-- What words ask for, where the options so far and the words without a meaning are given. -/
def gather (o : Options) (extra : List String) : List Word → Except UsageError Request
  | [] => if extra.isEmpty then .ok (.run o) else .error (.unrecognized extra)
  | .plain s :: words => gather o (extra ++ [s]) words
  | .unknown s :: words => gather o (extra ++ [s]) words
  | .option .help none :: _ => .ok .help
  | .option key (some value) :: words =>
    match o.set key value with
    | .ok o => gather o extra words
    | .error e => .error e
  | .option key none :: .plain value :: words =>
    match o.set key value with
    | .ok o => gather o extra words
    | .error e => .error e
  | .option key none :: _ => .error (.noValue key)

/-- What a command line asks for. All of its words are read before any of them counts. -/
def ofWords (words : List String) : Except UsageError Request :=
  match Word.readAll words with
  | .ok words => gather .usual [] words
  | .error e => .error e

example : ofWords ["--na", "md5", "--name=-x", "--file-level", "INFO"] =
    .ok (.run { Options.usual with names := ["md5", "-x"], fileLevel := .info }) := by
  cbv
example : ofWords ["--help", "--con"] = .error (.ambiguous "--con" [.config, .consoleLevel]) := by
  cbv
example : ofWords ["--name", "-1.5", "--", "-h"] = .error (.unrecognized ["--", "-h"]) := by
  cbv

end Request

end CryptoAudit.Command
