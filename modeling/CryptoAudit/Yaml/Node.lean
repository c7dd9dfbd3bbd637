import CryptoAudit.Yaml.Layout
import CryptoAudit.Yaml.Tag

/-!
# Nodes of YAML

The tokens of a text describe one tree of nodes. An alias stands for the node with its anchor,
which has to be complete before.

## Main definitions

* `Node`: scalars, sequences and mappings, each with its type
* `Reader`: the tokens left, with the anchors known so far
* `document`: the node of a text
-/

namespace CryptoAudit.Yaml

/-- A node with its type. -/
inductive Node where
  | scalar (tag : Tag) (text : String)
  | sequence (tag : Tag) (items : List Node)
  | mapping (tag : Tag) (entries : List (Node × Node))

namespace Node

/-- The type of a node. -/
def tag : Node → Tag
  | scalar t _ => t
  | sequence t _ => t
  | mapping t _ => t

/-- The node where nothing is written. -/
def absent : Node := scalar .null ""

end Node

/-- The tokens left, with the anchors known so far. -/
structure Reader where
  tokens : List Token
  /-- The nodes with anchors; one that is not complete has no node yet. -/
  anchors : List (String × Option Node)
  /-- What the handles of tags stand for. -/
  handles : List (String × String)

namespace Reader

variable (r : Reader)

/-- The next token. -/
def next : Token :=
  r.tokens.headD .streamEnd

/-- The reader after the next token. -/
def skip : Reader :=
  { r with tokens := r.tokens.drop 1 }

/-- A token that is out of place is a fault, as is one that says so itself. -/
def refuse {α : Type} : Except Fault α :=
  match r.next with
  | .fault f => .error f
  | _ => .error .malformed

/-- The full name that a tag is written for. -/
def fullName (handle : Option String) (tail : String) : Except Fault String :=
  match handle with
  | none => .ok tail
  | some h => match r.handles.lookup h with
    | some meaning => .ok (meaning ++ tail)
    | none => .error .malformed

/-- The anchor that comes next, if one does. -/
def anchor : Option String × Reader :=
  match r.next with
  | .anchor name => (some name, r.skip)
  | _ => (none, r)

/-- The full tag that comes next, if one does. -/
def fullTag : Except Fault (Option String × Reader) :=
  match r.next with
  | .tag handle tail => do return (some (← r.fullName handle tail), r.skip)
  | _ => .ok (none, r)

/-- The anchor and the tag of a node, in either order. -/
def properties : Except Fault (Option String × Option String × Reader) := do
  match r.anchor with
  | (some name, r) => do
    let (tag, r) ← r.fullTag
    return (some name, tag, r)
  | (none, r) => do
    match ← r.fullTag with
    | (some tag, r) =>
      let (name, r) := r.anchor
      return (name, some tag, r)
    | (none, r) => return (none, none, r)

/-- Note that a node with an anchor begins, or is complete. -/
def define (name : Option String) (node : Option Node) : Reader :=
  match name with
  | none => r
  | some name => { r with anchors := (name, node) :: r.anchors }

/-- The type of a scalar: a tag that is a single mark is the same as none on a plain scalar. -/
def scalarTag (tag : Option String) (text : String) (isPlain : Bool) : Tag :=
  match tag with
  | none => if isPlain then .ofPlain text else .text
  | some "!" => .ofPlain text
  | some name => .ofName name

/-- The type of a sequence or a mapping. -/
def collectionTag (tag : Option String) (usual : Tag) : Tag :=
  match tag with
  | none => usual
  | some "!" => usual
  | some name => .ofName name

/-- The node where nothing is written but an anchor or a tag. -/
def unwritten (name tag : Option String) : Except Fault (Node × Reader) :=
  if name.isSome || tag.isSome then .ok (Node.scalar (scalarTag tag "" true) "", r)
  else r.refuse

mutual

/-- The node that comes next. Blocks are allowed outside of brackets only, and a sequence that is
not indented only as the value or the key of a mapping; otherwise their start ends a node of which
nothing is written. -/
def node (isBlock isValue : Bool) : Nat → Reader → Except Fault (Node × Reader)
  | 0, _ => .error .malformed
  | fuel + 1, r => do
    if let .anchorRef name := r.next then
      match r.anchors.lookup name with
      | some (some node) => return (node, r.skip)
      | _ => throw .malformed
    let (name, tag, r) ← r.properties
    if name.any fun name => (r.anchors.lookup name).isSome then throw .malformed
    let open_ := r.define name none
    let (node, r) ← match r.next with
      | .scalar text isPlain => pure (Node.scalar (scalarTag tag text isPlain) text, r.skip)
      | .flowSequenceStart => do
        let (items, r) ← flowItems true fuel open_.skip
        pure (Node.sequence (collectionTag tag .sequence) items, r)
      | .flowMappingStart => do
        let (entries, r) ← flowEntries true fuel open_.skip
        pure (Node.mapping (collectionTag tag .mapping) entries, r)
      | .blockEntry =>
        if isValue then do
          let (items, r) ← looseItems fuel open_
          pure (Node.sequence (collectionTag tag .sequence) items, r)
        else r.unwritten name tag
      | .blockSequenceStart =>
        if isBlock then do
          let (items, r) ← blockItems fuel open_.skip
          pure (Node.sequence (collectionTag tag .sequence) items, r)
        else r.unwritten name tag
      | .blockMappingStart =>
        if isBlock then do
          let (entries, r) ← blockEntries fuel open_.skip
          pure (Node.mapping (collectionTag tag .mapping) entries, r)
        else r.unwritten name tag
      | _ => r.unwritten name tag
    return (node, r.define name (some node))

/-- The node that comes next, or the absent node if one of the given tokens comes. -/
def nodeUnless (stops : List Token) (isBlock isValue : Bool) :
    Nat → Reader → Except Fault (Node × Reader)
  | 0, _ => .error .malformed
  | fuel + 1, r =>
    if stops.contains r.next then .ok (Node.absent, r) else node isBlock isValue fuel r

/-- The value after a key, or the absent node. -/
def valueUnless (stops : List Token) (isBlock : Bool) :
    Nat → Reader → Except Fault (Node × Reader)
  | 0, _ => .error .malformed
  | fuel + 1, r =>
    if r.next = .value then nodeUnless stops isBlock isBlock fuel r.skip
    else .ok (Node.absent, r)

/-- The items of a block sequence, with its end. -/
def blockItems : Nat → Reader → Except Fault (List Node × Reader)
  | 0, _ => .error .malformed
  | fuel + 1, r =>
    match r.next with
    | .blockEntry => do
      let (item, r) ← nodeUnless [.blockEntry, .blockEnd] true false fuel r.skip
      let (items, r) ← blockItems fuel r
      return (item :: items, r)
    | .blockEnd => .ok ([], r.skip)
    | _ => r.refuse

/-- The items of a sequence that is not indented. -/
def looseItems : Nat → Reader → Except Fault (List Node × Reader)
  | 0, _ => .error .malformed
  | fuel + 1, r =>
    match r.next with
    | .blockEntry => do
      let (item, r) ← nodeUnless [.blockEntry, .key, .value, .blockEnd] true false fuel r.skip
      let (items, r) ← looseItems fuel r
      return (item :: items, r)
    | _ => .ok ([], r)

/-- The entries of a block mapping, with its end. -/
def blockEntries : Nat → Reader → Except Fault (List (Node × Node) × Reader)
  | 0, _ => .error .malformed
  | fuel + 1, r =>
    let stops : List Token := [.key, .value, .blockEnd]
    match r.next with
    | .key => do
      let (key, r) ← nodeUnless stops true true fuel r.skip
      let (value, r) ← valueUnless stops true fuel r
      let (entries, r) ← blockEntries fuel r
      return ((key, value) :: entries, r)
    | .blockEnd => .ok ([], r.skip)
    | _ => r.refuse

/-- The items between brackets, with the closing one. A key makes a mapping of one entry. -/
def flowItems (isFirst : Bool) : Nat → Reader → Except Fault (List Node × Reader)
  | 0, _ => .error .malformed
  | fuel + 1, r => do
    if r.next = .flowSequenceEnd then return ([], r.skip)
    let r ← if isFirst then pure r else if r.next = .flowEntry then pure r.skip else r.refuse
    match r.next with
    | .key =>
      let (key, r) ← nodeUnless [.value, .flowEntry, .flowSequenceEnd] false false fuel r.skip
      let (value, r) ← valueUnless [.flowEntry, .flowSequenceEnd] false fuel r
      let (items, r) ← flowItems false fuel r
      return (.mapping .mapping [(key, value)] :: items, r)
    | .flowSequenceEnd => return ([], r.skip)
    | _ =>
      let (item, r) ← node false false fuel r
      let (items, r) ← flowItems false fuel r
      return (item :: items, r)

/-- The entries between braces, with the closing one. What is not marked as a key is a key
without value. -/
def flowEntries (isFirst : Bool) : Nat → Reader → Except Fault (List (Node × Node) × Reader)
  | 0, _ => .error .malformed
  | fuel + 1, r => do
    if r.next = .flowMappingEnd then return ([], r.skip)
    let r ← if isFirst then pure r else if r.next = .flowEntry then pure r.skip else r.refuse
    match r.next with
    | .key =>
      let (key, r) ← nodeUnless [.value, .flowEntry, .flowMappingEnd] false false fuel r.skip
      let (value, r) ← valueUnless [.flowEntry, .flowMappingEnd] false fuel r
      let (entries, r) ← flowEntries false fuel r
      return ((key, value) :: entries, r)
    | .flowMappingEnd => return ([], r.skip)
    | _ =>
      let (key, r) ← node false false fuel r
      let (entries, r) ← flowEntries false fuel r
      return ((key, .absent) :: entries, r)

end

/-- Whether the token belongs to a directive. -/
def isDirective : Token → Bool
  | .versionDirective _ | .tagDirective _ _ | .otherDirective => true
  | _ => false

/-- What the handles of tags stand for in every document that does not say otherwise. -/
def usualHandles : List (String × String) :=
  [("!", "!"), ("!!", standardTags)]

/-- The handles that directives define; a version or a handle is given at most once, and the
version is one of the first. -/
def directives (hasVersion : Bool) (handles : List (String × String)) :
    List Token → Except Fault (List (String × String))
  | [] => .ok handles
  | .versionDirective major :: ts =>
    if hasVersion || major ≠ 1 then .error .malformed else directives true handles ts
  | .tagDirective handle meaning :: ts =>
    if (handles.lookup handle).isSome then .error .malformed
    else directives hasVersion ((handle, meaning) :: handles) ts
  | _ :: ts => directives hasVersion handles ts

/-- The start of a document that is marked. -/
def explicitStart : Except Fault Reader := do
  let handles ← directives false [] (r.tokens.takeWhile isDirective)
  let r := { r with
    tokens := r.tokens.dropWhile isDirective
    handles := handles ++ usualHandles }
  if r.next = .documentStart then return r.skip else r.refuse

/-- The node of a document that is marked. -/
def explicitNode : Except Fault (Node × Reader) := do
  let r ← r.explicitStart
  let isEmpty := isDirective r.next ||
    [Token.documentStart, .documentEnd, .streamEnd].contains r.next
  if isEmpty then return (.absent, r)
  else node true false (4 * r.tokens.length + 8) r

/-- The only node of a stream, if there is one. -/
def single : Except Fault (Option Node) := do
  if r.next = .streamEnd then return none
  let isExplicit := isDirective r.next || r.next = .documentStart
  let (root, r) ←
    if isExplicit then r.explicitNode else node true false (4 * r.tokens.length + 8) r
  let r := { r with tokens := r.tokens.dropWhile (· = Token.documentEnd) }
  if r.next = .streamEnd then return some root else r.refuse

end Reader

/-- The node of a text, unless the text is empty. -/
def document (cs : List Char) : Except Fault (Option Node) :=
  Reader.single ⟨tokens cs, [], Reader.usualHandles⟩

end CryptoAudit.Yaml
