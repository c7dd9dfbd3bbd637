import CryptoAudit.Name.Forms
import CryptoAudit.Taxonomy.Table
import CryptoAudit.Text.Blank

/-!
# Registries from settings

Settings give, under the key `algorithms`, a mapping from categories to groups of names. A
category is named by the text of its key without blanks at the ends; an absent group is an empty
one. Names are normalised: blanks at the ends are dropped, then the name is put in upper case and
its separators are removed.

## Main definitions

* `Registry.normalName`: the canonical spelling of a listed name
* `Registry.configEntries`: the entries that settings list
* `Registry.ofConfig`: the registry that settings describe
-/

namespace CryptoAudit.Registry

/-- The canonical spelling of a listed name. -/
def normalName (s : String) : String :=
  String.ofList (Name.stripSeparators (Text.upperChars (Text.stripChars s.toList)))

/-- The entry of one listed item. -/
def configEntry (c : Category) (isWeak : Bool) (item : Value) :
    Except TaxonomyError (List Entry) :=
  match item.display? with
  | some s => namedEntry c isWeak (.text (normalName s))
  | none => .error .tooManyDigits

/-- The strength of a group key. -/
def groupKey? : Value → Option (String × Bool)
  | .text s => (isWeakGroup? s).map fun w => (s, w)
  | _ => none

/-- The entries of one group: nothing, or a list of names. -/
def configGroup (c : Category) : Value × Value → Except TaxonomyError (List Entry)
  | (key, names) =>
    match groupKey? key with
    | none => .error (.unknownGroupKey c key)
    | some (group, isWeak) =>
      if !names.isTruthy then .ok []
      else match names with
        | .list items => gather (configEntry c isWeak) items
        | _ => .error (.notNames c group)

/-- The entries of one category: nothing, or a mapping of groups. -/
def configCategory : Value × Value → Except TaxonomyError (List Entry)
  | (key, groups) =>
    match Category.ofName? (Text.strip key.display) with
    | none => .error (.unknownCategoryKey key)
    | some c =>
      if !groups.isTruthy then .ok []
      else match groups with
        | .map groups => gather (configGroup c) groups
        | _ => .error (.notGroups c)

/-- The entries that settings list, in their order. -/
def configEntries (data : Value) : Except TaxonomyError (List Entry) :=
  match data with
  | .map fields =>
    match field? (Value.text "algorithms") fields with
    | some (.map (category :: categories)) => gather configCategory (category :: categories)
    | _ => .error .noAlgorithms
  | v => .error (.notMapping v.typeName)

/-- The registry that settings describe, with its notices. -/
def ofConfig (data : Value) : Log.Logged TaxonomyError Registry :=
  match configEntries data with
  | .ok es => build es
  | .error e => .fail e

end CryptoAudit.Registry
