import CryptoAudit.Yaml.Block
import CryptoAudit.Yaml.Plain
import CryptoAudit.Yaml.Property

/-!
# The layout of YAML

Outside brackets the structure of a text follows from its indentation, and a mapping begins where
a colon shows that what stands before it was a key. So a place where a key may have started is
kept until the line ends or the colon comes; then the missing tokens are inserted there.

## Main definitions

* `KeyPlace`: a place where a key may have started
* `Layout`: the tokens read so far with what decides about the next one
* `tokens`: the tokens of a text
-/

namespace CryptoAudit.Yaml

/-- A place where a key may have started. -/
structure KeyPlace where
  /-- The number of tokens before it. -/
  position : Nat
  /-- Whether nothing but a key can stand there. -/
  required : Bool
  /-- The place in the text. -/
  index : Nat
  line : Nat
  column : Nat

/-- The tokens read so far, with what decides about the next one. -/
structure Layout where
  cursor : Cursor
  /-- The tokens, the latest first. -/
  latest : List Token
  /-- The number of open brackets. -/
  depth : Nat
  /-- The column of the innermost block, or `-1`. -/
  indent : Int
  /-- The columns of the blocks around it, the innermost first. -/
  outer : List Int
  /-- Whether a key may start here. -/
  allowsKey : Bool
  /-- For each depth the place where a key may have started. -/
  keys : List (Nat × KeyPlace)

namespace Layout

/-- The state before a text. -/
def start (cs : List Char) : Layout :=
  ⟨.start cs, [], 0, -1, [], true, []⟩

variable (s : Layout)

/-- Whether the place is inside brackets. -/
def inFlow : Bool :=
  s.depth != 0

/-- Append a token. -/
def push (t : Token) : Layout :=
  { s with latest := t :: s.latest }

/-- Insert a token at a position counted from the start. -/
def insert (position : Nat) (t : Token) : Layout :=
  let later := s.latest.length - position
  { s with latest := s.latest.take later ++ t :: s.latest.drop later }

/-- Append a token of some characters. -/
def take (width : Nat) (t : Token) : Layout :=
  { s with latest := t :: s.latest, cursor := s.cursor.advance width }

/-! ### Places of keys -/

/-- Forget the place of a key at this depth, which is an error if only a key can stand there. -/
def dropKey : Except Fault Layout :=
  match s.keys.lookup s.depth with
  | none => .ok s
  | some key =>
    if key.required then .error .malformed
    else .ok { s with keys := s.keys.filter (·.1 != s.depth) }

/-- Note that a key may start here. -/
def noteKey : Except Fault Layout :=
  if s.allowsKey then do
    let s ← s.dropKey
    let c := s.cursor
    let key : KeyPlace :=
      ⟨s.latest.length, !s.inFlow && s.indent == Int.ofNat c.column, c.index, c.line, c.column⟩
    return { s with keys := (s.depth, key) :: s.keys }
  else .ok s

/-- Forget the places that are on an earlier line or too far behind. -/
def dropStaleKeys : Except Fault Layout :=
  let isStale (key : KeyPlace) : Bool :=
    key.line != s.cursor.line || 1024 + key.index < s.cursor.index
  if s.keys.any fun (_, key) => isStale key && key.required then .error .malformed
  else .ok { s with keys := s.keys.filter fun (_, key) => !isStale key }

/-! ### Blocks -/

/-- Close the blocks that lie deeper than a column. -/
def closeTo (column : Int) : List Int → Layout → Layout
  | [], s => if !s.inFlow && column < s.indent then { s.push .blockEnd with indent := -1 } else s
  | i :: outer, s =>
    if !s.inFlow && column < s.indent then
      closeTo column outer { s.push .blockEnd with indent := i, outer := outer }
    else s

/-- Close the blocks that lie deeper than a column. -/
def close (column : Int) : Layout :=
  closeTo column s.outer s

/-- Open a block at a column if it is deeper than the innermost one; its first token goes to the
given position. -/
def openAt (column position : Nat) (t : Token) : Layout :=
  if s.indent < Int.ofNat column then
    { s.insert position t with indent := column, outer := s.indent :: s.outer }
  else s

/-- Open a block here if it is deeper than the innermost one. Inside brackets there are no
blocks, and outside of them a block starts only where a key may start. -/
def openHere (t : Token) : Except Fault Layout :=
  if s.inFlow then .ok s
  else if s.allowsKey then .ok (s.openAt s.cursor.column s.latest.length t)
  else .error .malformed

/-! ### Tokens -/

/-- The end of the text, a directive or a marker of a document closes all blocks. -/
def leaveAll : Except Fault Layout := do
  let s ← (s.close (-1)).dropKey
  return { s with allowsKey := false }

/-- A bracket that opens. -/
def openBracket (t : Token) : Except Fault Layout := do
  let s ← s.noteKey
  return { s.take 1 t with depth := s.depth + 1, allowsKey := true }

/-- A bracket that closes one that is open. -/
def closeBracket (t : Token) : Except Fault Layout := do
  if !s.inFlow then throw .malformed
  let s ← s.dropKey
  return { s.take 1 t with depth := s.depth - 1, allowsKey := false }

/-- A comma between brackets. -/
def comma : Except Fault Layout := do
  let s ← s.dropKey
  return { s.take 1 .flowEntry with allowsKey := true }

/-- A dash before an item of a block. -/
def dash : Except Fault Layout := do
  let s ← (← s.openHere .blockSequenceStart).dropKey
  return { s.take 1 .blockEntry with allowsKey := true }

/-- A question mark before a key. -/
def question : Except Fault Layout := do
  let s ← (← s.openHere .blockMappingStart).dropKey
  return { s.take 1 .key with allowsKey := !s.inFlow }

/-- A colon before a value. If a key may have started at this depth, the key ends here. -/
def colon : Except Fault Layout := do
  match s.keys.lookup s.depth with
  | some key =>
    let s := { s with keys := s.keys.filter (·.1 != s.depth) }
    let s := s.insert key.position .key
    let s := if s.inFlow then s else s.openAt key.column key.position .blockMappingStart
    return { s.take 1 .value with allowsKey := false }
  | none =>
    let s ← (← s.openHere .blockMappingStart).dropKey
    return { s.take 1 .value with allowsKey := !s.inFlow }

/-- A token that may start a key, and the place after it. -/
def content (read : Cursor → Except Fault (Token × Cursor)) : Except Fault Layout := do
  let s ← s.noteKey
  let (t, c) ← read s.cursor
  return { s.push t with cursor := c, allowsKey := false }

/-- A plain scalar, after which a key may start if the scalar ended its line. -/
def plain : Except Fault Layout := do
  let s ← s.noteKey
  let (t, broken, c) := plainScalar s.inFlow s.indent s.cursor
  return { s.push t with cursor := c, allowsKey := broken }

/-- A block scalar. -/
def block (folded : Bool) : Except Fault Layout := do
  let s ← { s with allowsKey := true }.dropKey
  let (t, c) ← blockScalar folded s.indent s.cursor
  return { s.push t with cursor := c }

/-- The place of the next token: blanks, comments and line breaks are passed over. -/
def toNext : Nat → Layout → Layout
  | 0, s => s
  | fuel + 1, s =>
    let c := (s.cursor.skip (· == ' ')).skipComment
    if isBreak c.peek then
      toNext fuel { s with cursor := c.lineBreak.2, allowsKey := s.allowsKey || !s.inFlow }
    else { s with cursor := c }

/-- The state at the next token. -/
def advance : Except Fault Layout := do
  let c := s.cursor
  let c := if c.index = 0 && c.peek = '\uFEFF' then c.step else c
  let s ← (toNext c.fuel { s with cursor := c }).dropStaleKeys
  return s.close s.cursor.column

/-- Read the token that comes next, which is not the end. -/
def readToken : Except Fault Layout :=
  let c := s.cursor
  let x := c.peek
  let blankFollows := isBlankOrEnd (c.peekAt 1)
  if x = '%' && c.column = 0 then do
    let s ← s.leaveAll
    let (t, c) ← directive s.cursor
    return { s.push t with cursor := c }
  else if c.column = 0 && c.atMarker "---" then (·.take 3 .documentStart) <$> s.leaveAll
  else if c.column = 0 && c.atMarker "..." then (·.take 3 .documentEnd) <$> s.leaveAll
  else if x = '[' then s.openBracket .flowSequenceStart
  else if x = '\x7b' then s.openBracket .flowMappingStart
  else if x = ']' then s.closeBracket .flowSequenceEnd
  else if x = '\x7d' then s.closeBracket .flowMappingEnd
  else if x = ',' then s.comma
  else if x = '-' && blankFollows then s.dash
  else if x = '?' && (s.inFlow || blankFollows) then s.question
  else if x = ':' && (s.inFlow || blankFollows) then s.colon
  else if x = '*' then s.content fun c => do
    let (name, c) ← anchorName c
    return (.anchorRef name, c)
  else if x = '&' then s.content fun c => do
    let (name, c) ← anchorName c
    return (.anchor name, c)
  else if x = '!' then s.content tagProperty
  else if x = '|' && !s.inFlow then s.block false
  else if x = '>' && !s.inFlow then s.block true
  else if x = '\'' then s.content (quotedScalar false)
  else if x = '"' then s.content (quotedScalar true)
  else if startsPlain s.inFlow c then s.plain
  else .error .malformed

/-- Read tokens up to the end of the text or a fault. -/
def readAll : Nat → Layout → Layout
  | 0, s => s.push (.fault .malformed)
  | fuel + 1, s =>
    match s.advance with
    | .error f => s.push (.fault f)
    | .ok s =>
      if s.cursor.peek = endMark then
        match s.leaveAll with
        | .error f => s.push (.fault f)
        | .ok s => s.push .streamEnd
      else match s.readToken with
        | .error f => s.push (.fault f)
        | .ok s => readAll fuel s

end Layout

/-- The tokens of a text. -/
def tokens (cs : List Char) : List Token :=
  (Layout.readAll (cs.length + 2) (.start cs)).latest.reverse

end CryptoAudit.Yaml
