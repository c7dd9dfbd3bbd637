/-!
# Places in a YAML text

A cursor is a place in a text: what is left to read, with the line and the column. Reading past
the end gives the NUL character, which no YAML text holds.

## Main definitions

* `isBreak`, `isBreakOrEnd`, `isSpaceOrEnd`, `isBlankOrEnd`: classes of characters
* `Cursor`: a place
* `Cursor.advance`, `Cursor.span`, `Cursor.lineBreak`: moving on
-/

namespace CryptoAudit.Yaml

/-- What is read past the end of a text. -/
def endMark : Char := '\x00'

/-- Whether a character ends a line. -/
def isBreak (c : Char) : Bool :=
  c == '\n' || c == '\x85' || c == '\u2028' || c == '\u2029'

/-- Whether a character ends a line or the text. -/
def isBreakOrEnd (c : Char) : Bool :=
  isBreak c || c == endMark

/-- Whether a character is a space or ends a line or the text. -/
def isSpaceOrEnd (c : Char) : Bool :=
  isBreakOrEnd c || c == ' '

/-- Whether a character is a space, a tab or the end of a line or the text. -/
def isBlankOrEnd (c : Char) : Bool :=
  isSpaceOrEnd c || c == '\t'

/-- Whether a character is one of those of a text. -/
def isOneOf (chars : String) (c : Char) : Bool :=
  chars.toList.contains c

/-- Whether a character may stand in a name of an anchor, a directive or a tag handle. -/
def isNameChar (c : Char) : Bool :=
  ('0' ≤ c && c ≤ '9') || ('A' ≤ c && c ≤ 'Z') || ('a' ≤ c && c ≤ 'z') || c == '-' || c == '_'

/-- A place in a text. A byte-order mark takes no column. -/
structure Cursor where
  /-- What is left to read. -/
  rest : List Char
  /-- The number of characters read. -/
  index : Nat
  /-- The number of lines read. -/
  line : Nat
  /-- The number of columns read in this line. -/
  column : Nat
deriving Repr

namespace Cursor

/-- The start of a text. -/
def start (cs : List Char) : Cursor :=
  ⟨cs, 0, 0, 0⟩

/-- The character `k` places ahead. -/
def peekAt (c : Cursor) (k : Nat) : Char :=
  (c.rest.drop k).headD endMark

/-- The next character. -/
def peek (c : Cursor) : Char :=
  c.rest.headD endMark

/-- The place one character ahead. -/
def step (c : Cursor) : Cursor :=
  match c.rest with
  | [] => c
  | x :: rest =>
    if isBreak x then ⟨rest, c.index + 1, c.line + 1, 0⟩
    else ⟨rest, c.index + 1, c.line, if x = '\uFEFF' then c.column else c.column + 1⟩

/-- The place some characters ahead. -/
def advance : Nat → Cursor → Cursor
  | 0, c => c
  | n + 1, c => advance n c.step

/-- The characters of a class that come next, and the place after them. -/
def span (p : Char → Bool) (c : Cursor) : List Char × Cursor :=
  let taken := c.rest.takeWhile p
  (taken, c.advance taken.length)

/-- The place after the characters of a class that come next. -/
def skip (p : Char → Bool) (c : Cursor) : Cursor :=
  (c.span p).2

/-- A line break, if one comes next, and the place after it. All breaks but the two Unicode
separators are read as a line feed. -/
def lineBreak (c : Cursor) : List Char × Cursor :=
  let x := c.peek
  if x = '\n' || x = '\x85' then (['\n'], c.step)
  else if isBreak x then ([x], c.step)
  else ([], c)

/-- The place after a comment, if one comes next. -/
def skipComment (c : Cursor) : Cursor :=
  if c.peek = '#' then c.skip (fun x => !isBreakOrEnd x) else c

/-- Whether a document marker comes next. -/
def atMarker (marker : String) (c : Cursor) : Bool :=
  c.rest.take 3 == marker.toList && isBlankOrEnd (c.peekAt 3)

/-- Whether the start or the end of a document comes next. -/
def atSeparator (c : Cursor) : Bool :=
  c.atMarker "---" || c.atMarker "..."

/-- Enough steps to read the rest of the text. -/
def fuel (c : Cursor) : Nat :=
  c.rest.length + 2

end Cursor

end CryptoAudit.Yaml
