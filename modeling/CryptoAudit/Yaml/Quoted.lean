import CryptoAudit.Yaml.Token

/-!
# Quoted scalars of YAML

A scalar in single or double quotes may run over several lines: a line break with the blanks
around it reads as a space, and a break followed by empty lines as those lines. Double quotes
allow escapes.

## Main definitions

* `quotedScalar`: a scalar in quotes
-/

namespace CryptoAudit.Yaml

/-- The value of a hexadecimal digit. -/
def hexValue? (c : Char) : Option Nat :=
  if '0' ≤ c && c ≤ '9' then some (c.toNat - 48)
  else if 'a' ≤ c && c ≤ 'f' then some (c.toNat - 87)
  else if 'A' ≤ c && c ≤ 'F' then some (c.toNat - 55)
  else none

/-- The number that hexadecimal digits denote. -/
def hexNumber? (cs : List Char) : Option Nat :=
  cs.foldlM (fun n c => (hexValue? c).map (16 * n + ·)) 0

/-- The character that an escape of one letter stands for. -/
def escapedChar? (c : Char) : Option Char :=
  match c with
  | '0' => some '\x00'
  | 'a' => some '\x07'
  | 'b' => some '\x08'
  | 't' => some '\t'
  | '\t' => some '\t'
  | 'n' => some '\n'
  | 'v' => some '\x0b'
  | 'f' => some '\x0c'
  | 'r' => some '\r'
  | 'e' => some '\x1b'
  | ' ' => some ' '
  | '"' => some '"'
  | '\\' => some '\\'
  | '/' => some '/'
  | 'N' => some '\x85'
  | '_' => some '\xa0'
  | 'L' => some '\u2028'
  | 'P' => some '\u2029'
  | _ => none

/-- The number of digits of a numeric escape. -/
def escapeWidth? (c : Char) : Option Nat :=
  match c with
  | 'x' => some 2
  | 'u' => some 4
  | 'U' => some 8
  | _ => none

/-- The character with a code point. -/
def charOfCode (n : Nat) : Except Fault Char :=
  if n < 0x110000 then .ok (if n.isValidChar then Char.ofNat n else '\uFFFD')
  else if n < 0x80000000 then .error .characterOutOfRange
  else .error .characterTooLarge

/-- Whether a character is a space or a tab. -/
def isSpaceOrTab (c : Char) : Bool :=
  c == ' ' || c == '\t'

/-- The empty lines after a line break inside quotes. -/
def quotedBreaks : Nat → Cursor → Except Fault (List Char × Cursor)
  | 0, _ => .error .malformed
  | fuel + 1, c =>
    if c.atSeparator then .error .malformed
    else
      let c := c.skip isSpaceOrTab
      if isBreak c.peek then do
        let (b, c) := c.lineBreak
        let (bs, c) ← quotedBreaks fuel c
        return (b ++ bs, c)
      else .ok ([], c)

/-- The blanks and line breaks between two runs of characters inside quotes. -/
def quotedGap (c : Cursor) : Except Fault (List Char × Cursor) :=
  let (blanks, c) := c.span isSpaceOrTab
  if c.peek = endMark then .error .malformed
  else if isBreak c.peek then do
    let (b, c) := c.lineBreak
    let (bs, c) ← quotedBreaks c.fuel c
    let first := if b ≠ ['\n'] then b else if bs.isEmpty then [' '] else []
    return (first ++ bs, c)
  else .ok (blanks, c)

/-- An escape, after its backslash. -/
def escape (c : Cursor) : Except Fault (List Char × Cursor) :=
  let x := c.peek
  match escapedChar? x, escapeWidth? x with
  | some y, _ => .ok ([y], c.step)
  | none, some width =>
    let digits := c.step.rest.take width
    match hexNumber? digits with
    | some n =>
      if digits.length = width then do
        let y ← charOfCode n
        return ([y], c.step.advance width)
      else .error .malformed
    | none => .error .malformed
  | none, none =>
    if isBreak x then
      let c := c.lineBreak.2
      quotedBreaks c.fuel c
    else .error .malformed

/-- A run of characters and escapes inside quotes, up to a blank, a line break, the closing quote
or the end. -/
def quotedRun (double : Bool) : Nat → Cursor → Except Fault (List Char × Cursor)
  | 0, _ => .error .malformed
  | fuel + 1, c =>
    let (plain, c) := c.span fun x => !(isOneOf "'\"\\" x || isBlankOrEnd x)
    let x := c.peek
    if !double && x = '\'' && c.peekAt 1 = '\'' then do
      let (more, c) ← quotedRun double fuel (c.advance 2)
      return (plain ++ '\'' :: more, c)
    else if (double && x = '\'') || (!double && (x = '"' || x = '\\')) then do
      let (more, c) ← quotedRun double fuel c.step
      return (plain ++ x :: more, c)
    else if double && x = '\\' then do
      let (e, c) ← escape c.step
      let (more, c) ← quotedRun double fuel c
      return (plain ++ e ++ more, c)
    else .ok (plain, c)

/-- The rest of a quoted scalar, up to its closing quote. -/
def quotedRest (double : Bool) (quote : Char) :
    Nat → Cursor → Except Fault (List Char × Cursor)
  | 0, _ => .error .malformed
  | fuel + 1, c => do
    let (run, c) ← quotedRun double c.fuel c
    if c.peek = quote then return (run, c.step)
    let (gap, c) ← quotedGap c
    let (more, c) ← quotedRest double quote fuel c
    return (run ++ gap ++ more, c)

/-- A scalar in quotes. -/
def quotedScalar (double : Bool) (c : Cursor) : Except Fault (Token × Cursor) := do
  let (cs, c) ← quotedRest double c.peek c.fuel c.step
  return (.scalar (String.ofList cs) false, c)

end CryptoAudit.Yaml
