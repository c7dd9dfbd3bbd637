import CryptoAudit.Yaml.Cursor
import CryptoAudit.Yaml.Fault

/-!
# Tokens of YAML

The text of a settings file is a list of tokens. What cannot be read ends the list with a fault.

## Main definitions

* `Token`: the tokens
* `ignoredLine`: the end of a line that has to hold nothing more
-/

namespace CryptoAudit.Yaml

/-- A token of a YAML text. -/
inductive Token where
  | streamEnd
  | versionDirective (major : Nat)
  | tagDirective (handle tagPrefix : String)
  | otherDirective
  | documentStart
  | documentEnd
  | blockSequenceStart
  | blockMappingStart
  | blockEnd
  | flowSequenceStart
  | flowSequenceEnd
  | flowMappingStart
  | flowMappingEnd
  | blockEntry
  | flowEntry
  | key
  | value
  | anchorRef (name : String)
  | anchor (name : String)
  | tag (handle : Option String) (tail : String)
  | scalar (text : String) (isPlain : Bool)
  | fault (f : Fault)
deriving DecidableEq, Repr

/-- The rest of a line that may hold only spaces and a comment, with its break. -/
def ignoredLine (c : Cursor) : Except Fault Cursor :=
  let c := (c.skip (· == ' ')).skipComment
  if isBreakOrEnd c.peek then .ok c.lineBreak.2 else .error .malformed

end CryptoAudit.Yaml
