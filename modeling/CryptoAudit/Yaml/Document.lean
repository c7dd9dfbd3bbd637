import CryptoAudit.Value.Fields
import CryptoAudit.Yaml.Node
import CryptoAudit.Yaml.Scalar

/-!
# Values of YAML texts

A text is read as one value. A mapping may merge others: their entries come first, and its own
entries replace theirs. The keys of a mapping are values that cannot change.

## Main definitions

* `Node.value`: the value of a node
* `Yaml.parse`: the value of a text
-/

namespace CryptoAudit.Yaml

/-- Whether a value may be a key. -/
def isKey : Value → Bool
  | .list _ | .map _ | .set _ => false
  | .pair a b => isKey a && isKey b
  | _ => true

/-- A value as a key. -/
def asKey (v : Value) : Except Fault Value :=
  if isKey v then .ok v else .error .malformed

namespace Node

mutual

/-- The text of a scalar. A mapping has the text of its value key. -/
def text : Node → Except Fault String
  | .scalar _ s => .ok s
  | .mapping _ entries => valueKeyText entries
  | .sequence _ _ => .error .malformed

/-- The text of the value key of a mapping. -/
def valueKeyText : List (Node × Node) → Except Fault String
  | [] => .error .malformed
  | (key, value) :: entries => if key.tag = .valueKey then value.text else valueKeyText entries

end

mutual

/-- The value of a node. -/
def value : Node → Except Fault Value
  | .scalar .null _ => .ok .null
  | .scalar .bool s => truthValue s
  | .scalar .int s => intValue s
  | .scalar .float s => floatValue s
  | .scalar .binary s => bytesValue s
  | .scalar .timestamp s => timestampValue s
  | .scalar .text s => .ok (.text s)
  | .sequence .sequence items => .list <$> values items
  | .sequence .orderedMap items => .list <$> singleEntries items
  | .sequence .pairs items => .list <$> singleEntries items
  | .mapping .mapping entries => do
    let (merged, own) ← fields entries
    return .map (ofPairs (merged ++ own))
  | .mapping .set entries => do
    let (merged, own) ← fields entries
    return .set ((ofPairs (merged ++ own)).map Prod.fst)
  | .mapping .null entries => (fun _ => .null) <$> valueKeyText entries
  | .mapping .bool entries => do truthValue (← valueKeyText entries)
  | .mapping .int entries => do intValue (← valueKeyText entries)
  | .mapping .float entries => do floatValue (← valueKeyText entries)
  | .mapping .binary entries => do bytesValue (← valueKeyText entries)
  | .mapping .timestamp entries => do timestampValue (← valueKeyText entries)
  | .mapping .text entries => .text <$> valueKeyText entries
  | _ => .error .malformed

/-- The values of nodes. -/
def values : List Node → Except Fault (List Value)
  | [] => .ok []
  | n :: ns => do return (← n.value) :: (← values ns)

/-- The entries of mappings of one entry each, as pairs. -/
def singleEntries : List Node → Except Fault (List Value)
  | [] => .ok []
  | .mapping _ [(k, v)] :: ns => do
    return .pair (← k.value) (← v.value) :: (← singleEntries ns)
  | _ => .error .malformed

/-- The entries that a mapping merges, and its own. -/
def fields : List (Node × Node) →
    Except Fault (List (Value × Value) × List (Value × Value))
  | [] => .ok ([], [])
  | (k, v) :: entries =>
    if k.tag = .mergeKey then do
      let first ← v.merged
      let (merged, own) ← fields entries
      return (first ++ merged, own)
    else do
      let key ← if k.tag = .valueKey then .text <$> k.text else k.value
      let entry := (← asKey key, ← v.value)
      let (merged, own) ← fields entries
      return (merged, entry :: own)

/-- The entries of a merged mapping, or of several of which the first has precedence. -/
def merged : Node → Except Fault (List (Value × Value))
  | .mapping _ entries => do
    let (merged, own) ← fields entries
    return merged ++ own
  | .sequence _ items => mergedItems items
  | .scalar _ _ => .error .malformed

/-- The entries of several merged mappings, the last one first. -/
def mergedItems : List Node → Except Fault (List (Value × Value))
  | [] => .ok []
  | .mapping _ entries :: ns => do
    let (merged, own) ← fields entries
    return (← mergedItems ns) ++ (merged ++ own)
  | _ => .error .malformed

end

end Node

/-- Whether a text may hold a character. -/
def isAllowed (c : Char) : Bool :=
  let n := c.toNat
  n == 0x9 || n == 0xA || n == 0xD || (0x20 ≤ n && n ≤ 0x7E) || n == 0x85 ||
    (0xA0 ≤ n && n ≤ 0xFFFD) || 0x10000 ≤ n

/-- The value of a text; an empty text has none. -/
def parse (s : String) : Except Fault Value := do
  let cs := s.toList
  if !cs.all isAllowed then throw .malformed
  match ← document cs with
  | none => return .null
  | some root => root.value

end CryptoAudit.Yaml
