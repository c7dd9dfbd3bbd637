import CryptoAudit.Proofs.Scan.Classified
import CryptoAudit.Proofs.Taxonomy.Insertion
import CryptoAudit.Scan.Finding

/-!
# Selected rows

The three masks over a classified table say for each row whether it is matched, whether its entry
is weak and whether its category is asked for. An empty result cell sets none of them. Together
they mark exactly the rows whose names denote an entry that is asked for, and marking keeps the
order of the rows and repeats none.

## Main definitions

* `isReported`: whether what a name denotes is asked for

## Main results

* `HasResults.matchedMask_eq`, `HasResults.strengthMask_eq`, `HasResults.categoryMask_eq`: the masks
* `HasResults.findingMask_eq`: the masks together
* `mem_reportedPlaces`: the places of the reported rows
* `selectFindings_classifyTable`: the rows of a table that are reported
-/

namespace CryptoAudit

/-- Whether what a name denotes is reported: an entry, a weak one if only those are asked for,
and of one of the categories if there are any. -/
def isReported (weakOnly : Bool) (categories : Option (List Category)) : Option Entry → Bool
  | none => false
  | some e => (e.isWeak || !weakOnly) &&
      ((categories.getD []).isEmpty || (categories.getD []).contains e.category)

/-- Two masks that come from one list. -/
theorem both_map {α : Type} (p q : α → Bool) (xs : List α) :
    both (xs.map p) (xs.map q) = xs.map fun x => p x && q x := by
  rw [both, List.zipWith_map, List.zipWith_self]

/-- A mask that comes from the list, narrowed by another one if that is asked for. -/
theorem narrowIf_map {α : Type} (asked : Bool) (p q : α → Bool) (xs : List α) :
    narrowIf asked (xs.map p) (.ok (xs.map q)) = .ok (xs.map fun x => p x && (!asked || q x)) := by
  cases asked
  · simp [narrowIf]
  · simp [narrowIf, Except.map, both_map]

namespace HasResults

variable {base t : Table} {founds : List (Option Entry)}
  (h : HasResults base t founds resultHeaders)

include h

/-- The matched rows are those with an entry. -/
theorem matchedMask_eq : matchedMask t = .ok (founds.map Option.isSome) := by
  have hcell (found : Option Entry) :
      (resultCell ResultColumn.matched found).isTruthy = found.isSome := by
    cases found <;> rfl
  rw [matchedMask, h.map_column (by decide)]
  simp only [hcell]

/-- A row without an entry has neither strength. -/
theorem strengthMask_eq (isWeak : Bool) :
    strengthMask t isWeak =
      .ok (founds.map fun found => found.any fun e => e.isWeak == isWeak) := by
  have hcell (found : Option Entry) : (resultCell ResultColumn.isWeak found == .bool isWeak) =
      found.any fun e => e.isWeak == isWeak := by
    cases found with
    | none => rfl
    | some e =>
      change (Value.bool e.isWeak == .bool isWeak) = (e.isWeak == isWeak)
      cases e.isWeak <;> cases isWeak <;> rfl
  rw [strengthMask, h.map_column (by decide)]
  simp only [hcell]

/-- A row without an entry is of no category. -/
theorem categoryMask_eq (categories : List Category) :
    categoryMask t categories =
      .ok (founds.map fun found => found.any fun e => categories.contains e.category) := by
  have hcell (found : Option Entry) :
      (categories.any fun c => resultCell ResultColumn.category found == .text c.name) =
        found.any fun e => categories.contains e.category := by
    cases found with
    | none =>
      change (categories.any fun _ => false) = false
      simp
    | some e =>
      change (categories.any fun c => Value.text e.category.name == .text c.name) =
        categories.contains e.category
      rw [Bool.eq_iff_iff, List.any_eq_true, List.contains_iff_mem]
      simp only [Value.equals_text, beq_iff_eq]
      constructor
      · rintro ⟨c, hc, hname⟩
        exact Category.name_injective hname ▸ hc
      · exact fun hmem => ⟨_, hmem, rfl⟩
  rw [categoryMask, h.map_column (by decide)]
  simp only [hcell]

/-- The masks together mark the rows to report. -/
theorem findingMask_eq (weakOnly : Bool) (categories : Option (List Category)) :
    findingMask weakOnly categories t =
      .ok (founds.map (isReported weakOnly categories)) := by
  simp only [findingMask, h.matchedMask_eq, h.strengthMask_eq, h.categoryMask_eq, bind,
    Except.bind, narrowIf_map]
  congr 2
  funext found
  cases found with
  | none => rfl
  | some e => simp [isReported, Bool.or_comm]

/-- The rows of the findings are kept, and their headers. -/
theorem selectFindings_eq (weakOnly : Bool) (categories : Option (List Category)) :
    selectFindings weakOnly categories t =
      .ok (t.select (founds.map (isReported weakOnly categories))) := by
  rw [selectFindings, h.findingMask_eq]
  rfl

end HasResults

theorem isReported_eq_true_iff {weakOnly : Bool} {categories : Option (List Category)}
    {found : Option Entry} :
    isReported weakOnly categories found = true ↔
      ∃ e, found = some e ∧ (e.isWeak = true ∨ weakOnly = false) ∧
        (categories.getD [] = [] ∨ e.category ∈ categories.getD []) := by
  cases found <;> simp [isReported]

/-- The places of the reported rows are those of the names that denote what is asked for. -/
theorem mem_reportedPlaces {r : Registry} {names : List String} {weakOnly : Bool}
    {categories : Option (List Category)} {i : Nat} :
    i ∈ markedPlaces ((names.map r.classify).map (isReported weakOnly categories)) ↔
      ∃ raw e, names[i]? = some raw ∧ r.classify raw = some e ∧
        (e.isWeak = true ∨ weakOnly = false) ∧
        (categories.getD [] = [] ∨ e.category ∈ categories.getD []) := by
  rw [mem_markedPlaces, List.getElem?_map, List.getElem?_map, Option.map_map,
    Option.map_eq_some_iff]
  simp only [Function.comp_apply, isReported_eq_true_iff]
  constructor
  · rintro ⟨raw, hraw, e, he, hasked⟩
    exact ⟨raw, e, hraw, he, hasked⟩
  · rintro ⟨raw, e, hraw, he, hasked⟩
    exact ⟨raw, hraw, e, he, hasked⟩

/-- A table of texts is classified and its findings are selected without failure, whatever
headers it has. Each row of the classified table carries what its name denotes; the columns that
are not result columns stay as they were. The findings are the rows whose names denote an entry
that is weak, unless strong ones are asked for too, and of a category that is asked for, unless
none is; each of them is there once, in the order of the table. -/
theorem selectFindings_classifyTable (r : Registry) (t : TextTable) {column : String}
    (hcol : column ∈ t.headers) (weakOnly : Bool) (categories : Option (List Category)) :
    ∃ out found, (classifyTable r t.toTable column).outcome = .ok out ∧
      selectFindings weakOnly categories out = .ok found ∧
      out.IsRegular ∧ out.rows.length = t.rows.length ∧
      (∀ header, header ∉ resultHeaders → out.column? header = t.toTable.column? header) ∧
      (∀ (i : Nat) raw, (t.column column)[i]? = some raw → ∃ row, out.rows[i]? = some row ∧
        ∀ header v, (header, v) ∈ resultCells (r.classify raw) →
          out.cell? header row = some v) ∧
      found.headers = out.headers ∧
      ∃ places : List Nat, places.Pairwise (· < ·) ∧
        found.rows.map some = places.map (out.rows[·]?) ∧
        ∀ i, i ∈ places ↔ ∃ raw e, (t.column column)[i]? = some raw ∧
          r.classify raw = some e ∧ (e.isWeak = true ∨ weakOnly = false) ∧
          (categories.getD [] = [] ∨ e.category ∈ categories.getD []) := by
  obtain ⟨out, hout, hresults⟩ :=
    exists_classifyTable_eq_ok r t.isRegular_toTable (t.column?_toTable hcol)
  let mask := ((t.column column).map r.classify).map (isReported weakOnly categories)
  refine ⟨out, out.select mask, hout, hresults.selectFindings_eq weakOnly categories,
    hresults.regular t.isRegular_toTable, ?rows, hresults.others, ?cells, rfl, markedPlaces mask,
    pairwise_markedPlaces mask, ?kept, fun i => mem_reportedPlaces⟩
  case rows => simp [hresults.rows, TextTable.column]
  case cells =>
    intro i raw hraw
    have hfound : ((t.column column).map r.classify)[i]? = some (r.classify raw) := by
      rw [List.getElem?_map, hraw, Option.map_some]
    have hi : i < out.rows.length := by
      rw [hresults.rows]
      exact (List.getElem?_eq_some_iff.1 hfound).1
    refine ⟨out.rows[i], List.getElem?_eq_getElem hi, fun header v hv => ?_⟩
    obtain ⟨hmem, rfl⟩ := resultCell_of_mem hv
    exact hresults.cell?_eq_some hmem (List.getElem?_eq_getElem hi) hfound
  case kept =>
    exact map_some_keep (by rw [List.length_map, hresults.rows])

/-- A table whose raw names stand in a column that has the header of a result column. -/
def namedTable : TextTable where
  headers := [ResultColumn.name, "file"]
  rows := [["md5", "a.py"], ["other", "b.py"], ["aes-128", "c.py"]]
  distinct := by decide
  regular := by decide

/-- The raw names are read before their column is replaced, and the weak one is found. -/
theorem selectFindings_classifyTable_replaced :
    ResultColumn.name ∈ namedTable.headers ∧
      ∃ out found,
        (classifyTable .builtin namedTable.toTable ResultColumn.name).outcome = .ok out ∧
        selectFindings true none out = .ok found ∧
        ∃ row ∈ found.rows, out.cell? ResultColumn.name row = some (.text "MD5") := by
  have hcol : ResultColumn.name ∈ namedTable.headers := by decide
  have hraw : (namedTable.column ResultColumn.name)[0]? = some "md5" := by decide
  have hmd5 : Registry.builtin.classify "md5" = some md5 := by decide +kernel
  obtain ⟨out, found, hout, hfound, -, -, -, hcells, -, places, -, hkept, hplaces⟩ :=
    selectFindings_classifyTable .builtin namedTable hcol true none
  obtain ⟨row, hrow, hcell⟩ := hcells 0 "md5" hraw
  have hplace : 0 ∈ places := (hplaces 0).2 ⟨"md5", md5, hraw, hmd5, .inl rfl, .inl rfl⟩
  have hmem : some row ∈ found.rows.map some := by
    rw [hkept, ← hrow]
    exact List.mem_map_of_mem hplace
  refine ⟨hcol, out, found, hout, hfound, row, by simpa using hmem, ?_⟩
  exact hcell ResultColumn.name (.text "MD5") (by rw [hmd5]; exact .tail _ (.head _))

end CryptoAudit
