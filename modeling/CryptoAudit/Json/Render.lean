import CryptoAudit.Text.Quoted
import CryptoAudit.Value.Text

/-!
# JSON text

A value is written with two blanks of indentation for each level and one item to a line. Text
keeps all characters but the quote, the backslash and the ASCII control characters. Keys are
written as text: numbers and the named constants may be keys too. A value without a JSON form is
written as its plain text. A key of another kind and an integer of very many digits are not
written; then the text ends where they were to stand.

## Main definitions

* `Json.quote`: a text in quotes
* `Json.Fault`: why a value is not written
* `Json.Draft`: a text that may end early
* `Json.keyText`: the text of a key
* `Json.render`: the lines of a value
-/

namespace CryptoAudit.Json

/-- A character as it stands between quotes. -/
def escapeChar (c : Char) : List Char :=
  if c = '"' then ['\\', '"']
  else if c = '\\' then ['\\', '\\']
  else if c = '\n' then ['\\', 'n']
  else if c = '\r' then ['\\', 'r']
  else if c = '\t' then ['\\', 't']
  else if c = '\x08' then ['\\', 'b']
  else if c = '\x0c' then ['\\', 'f']
  else if c.toNat < 0x20 then '\\' :: 'u' :: Text.hexDigits 4 c.toNat
  else [c]

/-- A text in quotes. -/
def quote (s : String) : List Char :=
  '"' :: (s.toList.flatMap escapeChar ++ ['"'])

/-- The text of a floating-point number, with names of its own for what is not finite. -/
def floatText (x : Binary64) : String :=
  match x with
  | .nan => "NaN"
  | .infinite negative => if negative then "-Infinity" else "Infinity"
  | x => x.toText

/-- The text of a truth value. -/
def boolText (b : Bool) : String :=
  if b then "true" else "false"

/-- Why a value is not written. -/
inductive Fault where
  | badKey (key : Value)
  | tooManyDigits

/-- The wording of a fault. -/
def Fault.message : Fault → String
  | .badKey key => "keys must be str, int, float, bool or None, not " ++ key.typeName
  | .tooManyDigits => tooManyDigitsMessage

/-- A text, and why it ends early if it does. -/
structure Draft where
  text : List Char
  fault : Option Fault

namespace Draft

/-- The text that ends here. -/
def done : Draft :=
  ⟨[], none⟩

/-- The text that ends early here. -/
def stop (f : Fault) : Draft :=
  ⟨[], some f⟩

/-- A text in front of another. -/
def after (cs : List Char) (d : Draft) : Draft :=
  ⟨cs ++ d.text, d.fault⟩

@[simp] theorem text_after (cs : List Char) (d : Draft) : (d.after cs).text = cs ++ d.text := rfl

@[simp] theorem fault_after (cs : List Char) (d : Draft) : (d.after cs).fault = d.fault := rfl

end Draft

/-- The text of an integer. -/
def intText (n : Int) : Except Fault String :=
  if (Value.int n).isWritable then .ok (decimal n) else .error .tooManyDigits

/-- The text of a key. -/
def keyText : Value → Except Fault String
  | .text s => .ok s
  | .null => .ok "null"
  | .bool b => .ok (boolText b)
  | .int n => intText n
  | .float x => .ok (floatText x)
  | v => .error (.badKey v)

/-- The start of a line at a level. -/
def newLine (level : Nat) : List Char :=
  '\n' :: List.replicate (2 * level) ' '

/-- A key behind the text that parts it from the entry before, if any. -/
def keyed (cs : List Char) (k : Value) (rest : Draft) : Draft :=
  match keyText k with
  | .ok s => rest.after (cs ++ quote s ++ [':', ' '])
  | .error f => .stop f

/-- Whether a value is an integer that is not written. -/
def isOversized : Value → Bool
  | .int n => !(Value.int n).isWritable
  | _ => false

/-- An item of a list behind the text that parts it from the item before, if any. An integer is
written in one piece with that text. -/
def lead (cs : List Char) (v : Value) (item : Draft) : Draft :=
  if isOversized v then item else item.after cs

mutual

/-- The text of a value that stands at a level, and of the rest behind it. -/
def renderAt (level : Nat) (rest : Draft) : Value → Draft
  | .null => rest.after "null".toList
  | .bool b => rest.after (boolText b).toList
  | .int n => match intText n with
    | .ok s => rest.after s.toList
    | .error f => .stop f
  | .float x => rest.after (floatText x).toList
  | .text s => rest.after (quote s)
  | .list [] => rest.after ['[', ']']
  | .list (v :: vs) =>
    lead ('[' :: newLine (level + 1)) v (renderAt (level + 1)
      (renderItems (level + 1) (rest.after (newLine level ++ [']'])) vs) v)
  | .pair v w =>
    lead ('[' :: newLine (level + 1)) v (renderAt (level + 1)
      (lead (',' :: newLine (level + 1)) w
        (renderAt (level + 1) (rest.after (newLine level ++ [']'])) w)) v)
  | .map [] => rest.after ['\x7b', '\x7d']
  | .map ((k, v) :: entries) =>
    (keyed [] k (renderAt (level + 1)
      (renderEntries (level + 1) (rest.after (newLine level ++ ['\x7d'])) entries) v)).after
      ('\x7b' :: newLine (level + 1))
  | .bytes bs => rest.after (quote (Value.bytes bs).display)
  | .date d => rest.after (quote d.text)
  | .moment t => rest.after (quote t.text)
  | .path p => rest.after (quote p.text)
  | .set vs =>
    if (Value.set vs).isWritable then rest.after (quote (Value.set vs).display)
    else .stop .tooManyDigits

/-- The items of a list after the first. -/
def renderItems (level : Nat) (rest : Draft) : List Value → Draft
  | [] => rest
  | v :: vs =>
    lead (',' :: newLine level) v (renderAt level (renderItems level rest vs) v)

/-- The entries of a mapping after the first. -/
def renderEntries (level : Nat) (rest : Draft) : List (Value × Value) → Draft
  | [] => rest
  | (k, v) :: entries =>
    keyed (',' :: newLine level) k (renderAt level (renderEntries level rest entries) v)

end

/-- The text of a value. -/
def render (v : Value) : Draft :=
  renderAt 0 .done v

example : quote "a\"b\n\x01é" = "\"a\\\"b\\n\\u0001é\"".toList := by decide +kernel

end CryptoAudit.Json
