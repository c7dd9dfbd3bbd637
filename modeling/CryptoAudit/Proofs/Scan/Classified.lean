import CryptoAudit.Proofs.Table.Columns
import CryptoAudit.Scan.Classified
import Mathlib.Data.List.Forall2

/-!
# Classified rows

Classifying a table does not fail if every cell of its column holds a name, and every row gets the
cells of what its name denotes. The outcomes grow by one cell each with every name. Setting a
result column then keeps the result columns that were set before, whatever headers the table had,
so in the end all of them agree with one list of outcomes.

## Main definitions

* `resultCells`, `resultCell`: the result columns for one name
* `Outcomes.of`: the cells for a list of outcomes
* `HoldNames`: cells hold names, one each
* `HasResults`: a table has result columns for a list of outcomes

## Main results

* `outcomesOf_names`: the outcomes for a column of names
* `HasResults.setColumn`: one more result column
* `exists_classifyTable_of_names`: a classified table has all result columns
* `exists_classifyTable_eq_ok`: the same for a column of texts
-/

namespace CryptoAudit

/-- The cells of the result columns for what a name denotes, each with its header. -/
def resultCells : Option Entry → List (String × Value)
  | some e => [(ResultColumn.category, .text e.category.name), (ResultColumn.name, .text e.name),
      (ResultColumn.isWeak, .bool e.isWeak),
      (ResultColumn.message, .text ("Use of " ++ e.describe)),
      (ResultColumn.matched, .bool true)]
  | none => [(ResultColumn.category, .null), (ResultColumn.name, .null),
      (ResultColumn.isWeak, .null), (ResultColumn.message, .null),
      (ResultColumn.matched, .bool false)]

/-- The cell of one result column for what a name denotes. -/
def resultCell (header : String) (found : Option Entry) : Value :=
  (field? header (resultCells found)).getD .null

/-- A result column for a list of outcomes. -/
def resultColumn (header : String) (founds : List (Option Entry)) : List Value :=
  founds.map (resultCell header)

/-! ### Collecting outcomes -/

namespace Outcomes

/-- The cells for a list of outcomes. -/
def of (founds : List (Option Entry)) : Outcomes where
  categories := resultColumn ResultColumn.category founds
  names := resultColumn ResultColumn.name founds
  weakFlags := resultColumn ResultColumn.isWeak founds
  messages := resultColumn ResultColumn.message founds

theorem add_of (founds : List (Option Entry)) (found : Option Entry) :
    (of founds).add found = of (founds ++ [found]) := by
  cases found <;> simp only [of, resultColumn, List.map_append] <;> rfl

end Outcomes

/-- The cells hold names, one each. -/
def HoldNames (cells : List Value) (names : List String) : Prop :=
  List.Forall₂ (fun cell name => candidateName cell = .ok name) cells names

theorem holdNames_texts (names : List String) : HoldNames (names.map .text) names :=
  List.forall₂_map_left_iff.2 (List.forall₂_same.2 fun name _ => candidateName_text name)

variable (r : Registry)

/-- One cell: the outcome of its name comes last. -/
theorem classifyCell_of_name (founds : List (Option Entry)) {cell : Value} {name : String}
    (h : candidateName cell = .ok name) :
    classifyCell r (.of founds) cell = .ok (.of (founds ++ [r.classify name])) := by
  rw [classifyCell, h, ← Outcomes.add_of]
  rfl

/-- A whole column: the outcomes are those of its names one by one. -/
theorem outcomesOf_names {cells : List Value} {names : List String} (h : HoldNames cells names) :
    outcomesOf r cells = .ok (.of (names.map r.classify)) := by
  have run (founds : List (Option Entry)) :
      cells.foldlM (classifyCell r) (.of founds) = .ok (.of (founds ++ names.map r.classify)) := by
    induction h generalizing founds with
    | nil => simp [pure, Except.pure]
    | cons hname _ ih =>
      rw [List.foldlM_cons, classifyCell_of_name r founds hname]
      exact (ih _).trans (by simp)
  exact run []

/-! ### Result columns -/

/-- A rectangular table with a row for each outcome. Under some headers it has the result columns,
and under all others the columns of the table that it was made from. -/
structure HasResults (base t : Table) (founds : List (Option Entry)) (headers : List String) :
    Prop where
  rectangular : t.IsRectangular
  textHeaders : base.HasTextHeaders → t.HasTextHeaders
  rows : t.rows.length = founds.length
  columns : ∀ header ∈ headers, t.column? header = some (resultColumn header founds)
  others : ∀ header, header ∉ headers → t.column? header = base.column? header

namespace HasResults

variable {base t : Table} {founds : List (Option Entry)} {headers : List String} {header : String}

theorem regular (h : HasResults base t founds headers) (hbase : base.IsRegular) : t.IsRegular :=
  ⟨h.rectangular, h.textHeaders hbase.headers⟩

/-- Setting one more result column keeps those that were set before. -/
theorem setColumn (h : HasResults base t founds headers) (header : String) :
    HasResults base (t.setColumn header (resultColumn header founds)) founds
      (header :: headers) := by
  have hlen : (resultColumn header founds).length = t.rows.length := by
    rw [resultColumn, List.length_map, h.rows]
  refine ⟨h.rectangular.setColumn _ _, fun hbase => (h.textHeaders hbase).setColumn _ _,
    (Table.length_rows_setColumn hlen).trans h.rows, ?_, ?_⟩
  · intro other hother
    -- A result column that is set again gets the same cells, so its header need not be new.
    by_cases hsame : header = other
    · subst hsame
      exact h.rectangular.column?_setColumn_self hlen
    · rw [h.rectangular.column?_setColumn_of_ne hlen hsame]
      exact h.columns other ((List.mem_cons.1 hother).resolve_left (Ne.symm hsame))
  · intro other hother
    rw [List.mem_cons, not_or] at hother
    rw [h.rectangular.column?_setColumn_of_ne hlen (Ne.symm hother.1)]
    exact h.others other hother.2

theorem column (h : HasResults base t founds headers) (hmem : header ∈ headers) :
    t.column header = .ok (resultColumn header founds) := by
  rw [Table.column, h.columns header hmem]

/-- A test of the cells of a result column is a test of the outcomes. -/
theorem map_column {α : Type} (h : HasResults base t founds headers) (hmem : header ∈ headers)
    (test : Value → α) :
    ((t.column header).map fun cells => cells.map test) =
      .ok (founds.map fun found => test (resultCell header found)) := by
  rw [h.column hmem, resultColumn, Except.map, List.map_map]
  rfl

/-- The first four result columns. -/
theorem setInto (h : HasResults base t founds []) :
    HasResults base ((Outcomes.of founds).setInto t) founds
      [ResultColumn.message, ResultColumn.isWeak, ResultColumn.name, ResultColumn.category] :=
  (((h.setColumn _).setColumn _).setColumn _).setColumn _

/-- The last result column says which names have an entry. -/
theorem exists_setMatched_eq_ok (h : HasResults base t founds headers)
    (hname : ResultColumn.name ∈ headers) :
    ∃ out, setMatched t = .ok out ∧
      HasResults base out founds (ResultColumn.matched :: headers) := by
  refine ⟨_, ?_, h.setColumn ResultColumn.matched⟩
  have hcell (found : Option Entry) :
      Value.bool (!isMissing (resultCell ResultColumn.name found)) =
        resultCell ResultColumn.matched found := by
    cases found <;> rfl
  rw [setMatched, h.column hname, resultColumn, Except.map, List.map_map]
  simp only [Function.comp_def, hcell]
  rfl

/-- A row with an outcome has its cells under the result columns. -/
theorem cell?_eq_some (h : HasResults base t founds headers) (hmem : header ∈ headers) {i : Nat}
    {found : Option Entry} {row : List Value} (hrow : t.rows[i]? = some row)
    (hfound : founds[i]? = some found) :
    t.cell? header row = some (resultCell header found) := by
  refine h.rectangular.cell?_eq_some (h.columns header hmem) hrow ?_
  rw [resultColumn, List.getElem?_map, hfound]
  rfl

end HasResults

/-! ### Classifying a table -/

/-- The headers of the result columns, the last one first. -/
def resultHeaders : List String :=
  [ResultColumn.matched, ResultColumn.message, ResultColumn.isWeak, ResultColumn.name,
    ResultColumn.category]

/-- Every result cell is the cell of its column. -/
theorem resultCell_of_mem {found : Option Entry} {header : String} {v : Value}
    (h : (header, v) ∈ resultCells found) :
    header ∈ resultHeaders ∧ resultCell header found = v := by
  have headers : (resultCells found).map Prod.fst = resultHeaders.reverse := by
    cases found <;> rfl
  have distinct : ((resultCells found).map Prod.fst).Nodup := by
    rw [headers]
    decide
  refine ⟨?_, by rw [resultCell, (field?_eq_some_iff distinct).2 h]; rfl⟩
  rw [← List.mem_reverse, ← headers]
  exact List.mem_map_of_mem h

/-- A table with a column of names is classified without failure, and then has all result columns
for what the names denote. -/
theorem exists_classifyTable_of_names {t : Table} (rectangular : t.IsRectangular)
    {column : String} {cells : List Value} {names : List String}
    (hcol : t.column? column = some cells) (hnames : HoldNames cells names) :
    ∃ out, (classifyTable r t column).outcome = .ok out ∧
      HasResults t out (names.map r.classify) resultHeaders := by
  -- The names were read before the first result column took the place of any other.
  have hrows : t.rows.length = (names.map r.classify).length := by
    rw [← Table.length_of_column? hcol, List.Forall₂.length_eq hnames, List.length_map]
  have start : HasResults t t (names.map r.classify) [] :=
    ⟨rectangular, id, hrows, fun _ hmem => absurd hmem List.not_mem_nil, fun _ _ => rfl⟩
  obtain ⟨out, hout, hresults⟩ := start.setInto.exists_setMatched_eq_ok (by decide)
  refine ⟨out, ?_, hresults⟩
  have hcells : t.column column = .ok cells := by rw [Table.column, hcol]
  have hmatched : out.column ResultColumn.matched = .ok _ := hresults.column (by decide)
  rw [classifyTable, Log.Logged.outcome_bind_ok hcells,
    Log.Logged.outcome_bind_ok (outcomesOf_names r hnames), Log.Logged.outcome_bind_ok hout]
  simp only [classifiedNotice, hmatched]
  rfl

theorem exists_classifyTable_eq_ok {t : Table} (regular : t.IsRegular) {column : String}
    {names : List String} (hcol : t.column? column = some (names.map .text)) :
    ∃ out, (classifyTable r t column).outcome = .ok out ∧
      HasResults t out (names.map r.classify) resultHeaders :=
  exists_classifyTable_of_names r regular.toIsRectangular hcol (holdNames_texts names)

end CryptoAudit
