import CryptoAudit.Number.Read
import CryptoAudit.Yaml.Quoted

/-!
# Anchors, tags and directives of YAML

A node may carry an anchor, by which an alias refers to it, and a tag, which names its type. A
tag is a handle with a tail, or a whole name between angle brackets. Directives before a document
give its version and the meaning of its handles.

## Main definitions

* `anchorName`: the name after `&` or `*`
* `tagProperty`: a tag
* `directive`: a directive
-/

namespace CryptoAudit.Yaml

/-- The name of an anchor or an alias, after its indicator. -/
def anchorName (c : Cursor) : Except Fault (String × Cursor) :=
  let (name, c) := c.step.span isNameChar
  if name.isEmpty || !(isBlankOrEnd c.peek || isOneOf "?:,]\x7d%@\x60" c.peek) then
    .error .malformed
  else .ok (String.ofList name, c)

/-- Whether a character may stand in a tag as it is. -/
def isTagChar (c : Char) : Bool :=
  isNameChar c || isOneOf ";/?:@&=+$,.!~*'()[]" c

/-- The bytes of the percent escapes that come next. -/
def escapedBytes : Nat → Cursor → Except Fault (List UInt8 × Cursor)
  | 0, c => .ok ([], c)
  | fuel + 1, c =>
    if c.peek = '%' then
      match hexValue? (c.peekAt 1), hexValue? (c.peekAt 2) with
      | some high, some low => do
        let (more, c) ← escapedBytes fuel (c.advance 3)
        return (UInt8.ofNat (16 * high + low) :: more, c)
      | _, _ => .error .malformed
    else .ok ([], c)

/-- The characters of a tag that come next, with escapes replaced by what they stand for. -/
def tagChars : Nat → Cursor → Except Fault (List Char × Cursor)
  | 0, c => .ok ([], c)
  | fuel + 1, c => do
    let (plain, c) := c.span isTagChar
    if c.peek = '%' then
      let (bytes, c) ← escapedBytes c.fuel c
      let some text := String.fromUTF8? ⟨bytes.toArray⟩ | throw .malformed
      let (more, c) ← tagChars fuel c
      return (plain ++ text.toList ++ more, c)
    return (plain, c)

/-- A piece of a tag, which is not empty. -/
def tagText (c : Cursor) : Except Fault (String × Cursor) := do
  let (cs, c) ← tagChars c.fuel c
  if cs.isEmpty then throw .malformed
  return (String.ofList cs, c)

/-- A handle: an exclamation mark, alone before a space or else closed by a second one after a
name. -/
def tagHandle (c : Cursor) : Except Fault (String × Cursor) :=
  if c.peek ≠ '!' then .error .malformed
  else
    let (name, after) := c.step.span isNameChar
    if c.peekAt 1 = ' ' then .ok ("!", c.step)
    else if after.peek = '!' then .ok (String.ofList ('!' :: name ++ ['!']), after.step)
    else .error .malformed

/-- Whether the tag that comes next has a handle that is closed by a second mark. -/
def hasClosedHandle (c : Cursor) : Bool :=
  (c.rest.drop 1).takeWhile (fun x => !isSpaceOrEnd x) |>.contains '!'

/-- A tag. -/
def tagProperty (c : Cursor) : Except Fault (Token × Cursor) := do
  let next := c.peekAt 1
  let (token, c) ←
    if next = '<' then do
      let (name, c) ← tagText (c.advance 2)
      if c.peek ≠ '>' then throw .malformed
      pure (Token.tag none name, c.step)
    else if isBlankOrEnd next then pure (Token.tag none "!", c.step)
    else do
      let (handle, c) ← if hasClosedHandle c then tagHandle c else pure ("!", c.step)
      let (tail, c) ← tagText c
      pure (Token.tag (some handle) tail, c)
  if isSpaceOrEnd c.peek then return (token, c) else throw .malformed

/-- The version that a directive gives. -/
def version (c : Cursor) : Except Fault (Token × Cursor) :=
  let isNumeral (x : Char) : Bool := '0' ≤ x && x ≤ '9'
  let (major, c) := (c.skip (· == ' ')).span isNumeral
  let (minor, after) := c.step.span isNumeral
  if major.isEmpty || minor.isEmpty || c.peek ≠ '.' || !isSpaceOrEnd after.peek then
    .error .malformed
  else .ok (.versionDirective (natOfDigits major), after)

/-- The meaning of a handle that a directive gives. -/
def handleMeaning (c : Cursor) : Except Fault (Token × Cursor) := do
  let (handle, c) ← tagHandle (c.skip (· == ' '))
  if c.peek ≠ ' ' then throw .malformed
  let (meaning, c) ← tagText (c.skip (· == ' '))
  if isSpaceOrEnd c.peek then return (.tagDirective handle meaning, c) else throw .malformed

/-- A directive with the rest of its line. -/
def directive (c : Cursor) : Except Fault (Token × Cursor) := do
  let (name, c) := c.step.span isNameChar
  if name.isEmpty || !isSpaceOrEnd c.peek then throw .malformed
  let (token, c) ←
    if name = "YAML".toList then version c
    else if name = "TAG".toList then handleMeaning c
    else pure (Token.otherDirective, c.skip fun x => !isBreakOrEnd x)
  return (token, ← ignoredLine c)

end CryptoAudit.Yaml
