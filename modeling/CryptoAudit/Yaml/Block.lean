import CryptoAudit.Yaml.Token

/-!
# Block scalars of YAML

A literal block keeps its lines; a folded one joins lines that start with no blank. The header
may give the indentation, and what becomes of the line breaks at the end.

## Main definitions

* `Chomping`: the treatment of the last line breaks
* `blockScalar`: a literal or folded block
-/

namespace CryptoAudit.Yaml

/-- What becomes of the line breaks at the end of a block. -/
inductive Chomping where
  | clip
  | strip
  | keep
deriving DecidableEq, Repr

/-- A chomping indicator. -/
def chomping? (c : Char) : Option Chomping :=
  if c = '+' then some .keep else if c = '-' then some .strip else none

/-- An indentation indicator, which may not be zero. -/
def increment (c : Cursor) : Except Fault (Option Nat × Cursor) :=
  let x := c.peek
  if x = '0' then .error .malformed
  else if '1' ≤ x && x ≤ '9' then .ok (some (x.toNat - 48), c.step)
  else .ok (none, c)

/-- The header of a block: chomping and indentation, in either order. -/
def blockHeader (c : Cursor) : Except Fault ((Chomping × Option Nat) × Cursor) := do
  let (header, c) ← match chomping? c.peek with
    | some chomp => do
      let (n, c) ← increment c.step
      pure ((chomp, n), c)
    | none => do
      let (n, c) ← increment c
      match n, chomping? c.peek with
      | some _, some chomp => pure ((chomp, n), c.step)
      | _, _ => pure ((.clip, n), c)
  if isSpaceOrEnd c.peek then return (header, c) else throw .malformed

/-- The empty lines before a block whose indentation is not given, and the greatest number of
spaces in a line seen so far. -/
def leadingLines : Nat → Nat → Cursor → List Char × Nat × Cursor
  | 0, width, c => ([], width, c)
  | fuel + 1, width, c =>
    if c.peek = ' ' then leadingLines fuel (max width c.step.column) c.step
    else if isBreak c.peek then
      let (b, c) := c.lineBreak
      let (bs, width, c) := leadingLines fuel width c
      (b ++ bs, width, c)
    else ([], width, c)

/-- The place after the spaces before the column of a block. -/
def indentTo (indent : Nat) : Nat → Cursor → Cursor
  | 0, c => c
  | fuel + 1, c =>
    if c.column < indent && c.peek = ' ' then indentTo indent fuel c.step else c

/-- The empty lines that come next in a block, and the place of its next line. -/
def emptyLines (indent : Nat) : Nat → Cursor → List Char × Cursor
  | 0, c => ([], c)
  | fuel + 1, c =>
    let c := indentTo indent indent c
    if isBreak c.peek then
      let (b, c) := c.lineBreak
      let (bs, c) := emptyLines indent fuel c
      (b ++ bs, c)
    else ([], c)

/-- Whether a line of the block comes next. -/
def atBlockLine (indent : Nat) (c : Cursor) : Bool :=
  c.column == indent && c.peek != endMark

/-- The lines of a block; `breaks` are the empty lines before the next one. The result is the
text, the last line break, the empty lines after it and the place after them. -/
def blockLines (folded : Bool) (indent : Nat) :
    Nat → List Char → Cursor → List Char × List Char × List Char × Cursor
  | 0, breaks, c => ([], [], breaks, c)
  | fuel + 1, breaks, c =>
    let isText := !(c.peek == ' ' || c.peek == '\t')
    let (line, c) := c.span fun x => !isBreakOrEnd x
    let (b, c) := c.lineBreak
    let (bs, c) := emptyLines indent c.fuel c
    if atBlockLine indent c then
      let isFolded := folded && b == ['\n'] && isText && !(c.peek == ' ' || c.peek == '\t')
      let joint := if isFolded then (if bs.isEmpty then [' '] else []) else b
      let (more, last, after, c) := blockLines folded indent fuel bs c
      (breaks ++ line ++ joint ++ more, last, after, c)
    else (breaks ++ line, b, bs, c)

/-- A block scalar, below the given indentation. -/
def blockScalar (folded : Bool) (parentIndent : Int) (c : Cursor) :
    Except Fault (Token × Cursor) := do
  let ((chomp, step), c) ← blockHeader c.step
  let c ← ignoredLine c
  let least := (max (parentIndent + 1) 1).toNat
  let (indent, breaks, c) := match step with
    | some n =>
      let indent := least + n - 1
      let (breaks, c) := emptyLines indent c.fuel c
      (indent, breaks, c)
    | none =>
      let (breaks, width, c) := leadingLines c.fuel 0 c
      (max least width, breaks, c)
  let (text, last, after, c) :=
    if atBlockLine indent c then blockLines folded indent c.fuel breaks c
    else ([], [], breaks, c)
  let tail := match chomp with
    | .strip => []
    | .clip => last
    | .keep => last ++ after
  return (.scalar (String.ofList (text ++ tail)) false, c)

end CryptoAudit.Yaml
