import CryptoAudit.Taxonomy.Registry

/-!
# Wording of taxonomy errors

## Main definitions

* `TaxonomyError.message`: the wording of an error

## Main results

* `TaxonomyError.message_duplicate`: a refused name stands in single quotes as it is
-/

namespace CryptoAudit.TaxonomyError

/-- The names of the categories as a quoted list. -/
def categoryNames : String :=
  (Value.list (Category.all.map fun c => .text c.name)).quoted

/-- A wording that quotes a value, if the value is written. -/
def quoting (v : Value) (wording : String → String) : String :=
  if v.isWritable then wording v.quoted else tooManyDigitsMessage

/-- The wording of an error. -/
def message : TaxonomyError → String
  | .duplicate name c =>
    "Duplicate canonical name " ++ Text.quote name ++ " in category " ++ c.name
  | .invalidEntry errors => linesOfErrors errors
  | .unknownCategory name => Text.quote name ++ " is not a valid AlgorithmCategory"
  | .unknownGroup group c =>
    "Unknown strength group " ++ Text.quote group ++ " for category " ++ c.name
  | .notMapping typeName => "'" ++ typeName ++ "' object has no attribute 'get'"
  | .noAlgorithms =>
    "algorithms must be a non-empty mapping of category -> strength groups"
  | .unknownCategoryKey key =>
    quoting key fun text =>
      "Unknown algorithm category " ++ text ++ "; expected one of " ++ categoryNames
  | .notGroups c => "algorithms." ++ c.name ++ " must be a mapping with 'strong'/'weak' lists"
  | .unknownGroupKey c key =>
    quoting key fun text => "algorithms." ++ c.name ++ ": unknown strength group " ++ text
  | .notNames c group => "algorithms." ++ c.name ++ "." ++ group ++ " must be a list"
  | .tooManyDigits => tooManyDigitsMessage

/-- A canonical character needs no escape. -/
theorem quoteChar_canonical {c : Char} (h : isCanonicalChar c = true) :
    Text.quoteChar '\'' c = [c] := by
  have ne (d : Char) (hd : isCanonicalChar d = false) : c ≠ d := by
    rintro rfl
    rw [h] at hd
    cases hd
  obtain ⟨hlow, hhigh⟩ := toNat_of_isCanonicalChar h
  have printable := Text.isPrintable_of_between (c := c) (by omega) (by omega)
  simp [Text.quoteChar, printable, ne '\\' rfl, ne '\'' rfl, ne '\n' rfl, ne '\r' rfl,
    ne '\t' rfl]

/-- A canonical name is quoted by single quotes around it. -/
theorem quote_canonical {s : String} (h : IsCanonical s) : Text.quote s = "'" ++ s ++ "'" := by
  have hchar : ∀ c ∈ s.toList, isCanonicalChar c = true := List.all_eq_true.1 h.2
  have hquote : '\'' ∉ s.toList := fun hmem => absurd (hchar _ hmem) (by decide)
  have hbody : ∀ cs : List Char, (∀ c ∈ cs, isCanonicalChar c = true) →
      cs.flatMap (Text.quoteChar '\'') = cs := by
    intro cs hcs
    induction cs with
    | nil => rfl
    | cons c cs ih =>
      rw [List.flatMap_cons, quoteChar_canonical (hcs c List.mem_cons_self),
        ih fun d hd => hcs d (List.mem_cons_of_mem c hd)]
      rfl
  apply String.toList_injective
  simp [Text.quote, Text.quoteChars, Text.enclosing, hquote, hbody s.toList hchar]

theorem message_duplicate (e : Entry) (c : Category) :
    (duplicate e.name c).message =
      "Duplicate canonical name '" ++ e.name ++ "' in category " ++ c.name := by
  have before : "Duplicate canonical name '" = "Duplicate canonical name " ++ "'" := by
    decide +kernel
  have after : "' in category " = "'" ++ " in category " := by decide +kernel
  change "Duplicate canonical name " ++ Text.quote e.name ++ " in category " ++ c.name = _
  rw [quote_canonical e.canonical, before, after]
  simp only [String.append_assoc]

end CryptoAudit.TaxonomyError
