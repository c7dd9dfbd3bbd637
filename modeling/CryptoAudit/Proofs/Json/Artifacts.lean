import CryptoAudit.Command.Scan
import CryptoAudit.Proofs.Json.RoundTrip
import CryptoAudit.Proofs.Scan.Batches

/-!
# The files of a scan

A scan writes its settings, its findings and its summary. Whatever the headers and the texts of the
table are, these are values that are written without loss, as long as the number of rows itself is
short enough to be written.

## Main definitions

* `Json.IsObject`: fields that are written without loss

## Main results

* `isPayload_settingsRecord`: the settings
* `isPayload_findingOf`: a finding
* `isPayload_summary`: the summary
* `isPayload_scanResults`: the findings and the summary of a table of texts
-/

namespace CryptoAudit

namespace Json

/-- Whether fields are written without loss. -/
def IsObject (fields : List (Value × Value)) : Prop :=
  ∀ field ∈ fields, (∃ s, field.1 = .text s) ∧ IsPayload field.2

namespace IsObject

variable {fields new : List (Value × Value)} {v : Value}

theorem isPayload (h : IsObject fields) : IsPayload (.map fields) :=
  .map (fun field hfield => (h field hfield).1) fun field hfield => (h field hfield).2

theorem nil : IsObject [] :=
  List.forall_mem_nil _

theorem cons (s : String) (hv : IsPayload v) (h : IsObject fields) :
    IsObject ((.text s, v) :: fields) :=
  List.forall_mem_cons.2 ⟨⟨⟨s, rfl⟩, hv⟩, h⟩

theorem setField (h : IsObject fields) (s : String) (hv : IsPayload v) :
    IsObject (setField (.text s) v fields) := by
  induction fields with
  | nil => exact nil.cons s hv
  | cons field fields ih =>
    obtain ⟨hfield, hfields⟩ := List.forall_mem_cons.1 h
    rw [CryptoAudit.setField]
    split
    · exact List.forall_mem_cons.2 ⟨⟨hfield.1, hv⟩, hfields⟩
    · exact List.forall_mem_cons.2 ⟨hfield, ih hfields⟩

theorem setAll (h : IsObject fields) (hnew : IsObject new) : IsObject (setAll fields new) := by
  rw [CryptoAudit.setAll]
  refine List.foldlRecOn (motive := IsObject) new _ h ?_
  rintro fields hfields ⟨k, v⟩ hfield
  obtain ⟨⟨s, rfl⟩, hv⟩ : (∃ s, k = .text s) ∧ IsPayload v := hnew _ hfield
  exact hfields.setField s hv

end IsObject

end Json

open Json (IsObject IsPayload)

/-! ### Settings -/

theorem isPayload_columns (c : Columns) : IsPayload c.toValue := by
  have hcolumn (column : Option String) : IsPayload ((column.map .text).getD .null) := by
    cases column with
    | none => exact .null
    | some s => exact .text s
  exact (IsObject.nil.cons _ (hcolumn c.context) |>.cons _ (hcolumn c.line)
    |>.cons _ (hcolumn c.file) |>.cons _ (.text c.name)).isPayload

theorem isPayload_context (c : Log.Context) : IsPayload c.toValue :=
  (IsObject.nil.cons _ (.text c.shown.source) |>.cons _ (.text c.shown.runId)
    |>.cons _ (.text c.shown.runTag)).isPayload

/-- The settings are written without loss. -/
theorem isPayload_settingsRecord (config : ScanConfig) (context : Log.Context) :
    IsPayload (Command.settingsRecord config context) := by
  have hcategories (cs : List Category) : IsPayload (.list (cs.map fun c => .text c.name)) := by
    refine .list fun v hv => ?_
    obtain ⟨c, -, rfl⟩ := List.mem_map.1 hv
    exact .text c.name
  have hfile : IsPayload ((config.registryFile.map fun p => .text p.text).getD .null) := by
    cases config.registryFile with
    | none => exact .null
    | some p => exact .text p.text
  rw [Command.settingsRecord, ScanConfig.toValue]
  refine (IsObject.setField ?_ "run" (isPayload_context context)).isPayload
  refine IsObject.nil.cons _ hfile |>.cons _ (.text _) |>.cons _ (.bool _) |>.cons _ ?_
    |>.cons _ (.bool _) |>.cons _ (isPayload_columns _) |>.cons _ (.text _)
  cases config.categories with
  | none => exact .null
  | some cs => exact hcategories cs

/-! ### Findings -/

theorem isPayload_resultCell (header : String) (found : Option Entry) :
    IsPayload (resultCell header found) := by
  have hcells : ∀ cell ∈ resultCells found, IsPayload cell.2 := by
    cases found <;> simp [resultCells, IsPayload.null, IsPayload.text, IsPayload.bool]
  rw [resultCell]
  cases hcell : field? header (resultCells found) with
  | none => exact .null
  | some v => exact hcells _ (mem_of_field? hcell)

theorem isPayload_classifiedCell (headers row : List String) (e : Entry) (header : String) :
    IsPayload (classifiedCell headers row e header) := by
  rw [classifiedCell]
  split
  · exact isPayload_resultCell header (some e)
  · exact .text _

/-- A finding is written without loss. -/
theorem isPayload_findingOf {r : Registry} {config : ScanConfig} {headers row : List String}
    {record : Value} (h : findingOf r config headers row = some record) : IsPayload record := by
  obtain ⟨e, -, rfl⟩ := findingOf_eq_some h
  refine (IsObject.setAll ?_ ?_).isPayload
  · refine .cons _ (isPayload_classifiedCell _ _ e _) ?_
    exact IsObject.nil.cons _ (.text _) |>.cons _ (.bool _) |>.cons _ (.text _)
      |>.cons _ (.text _)
  · intro field hfield
    obtain ⟨header, -, rfl⟩ := List.mem_map.1 hfield
    exact ⟨⟨header, rfl⟩, isPayload_classifiedCell _ _ e header⟩

/-! ### Summaries -/

/-- A number that is not greater than one that is written is written. -/
theorem isPayload_count {n bound : Nat} (hbound : (Value.int bound).isWritable = true)
    (h : n ≤ bound) : IsPayload (Summary.count n) := by
  have hdigits (m : Nat) : (Value.int m).isWritable = true ↔ m < 10 ^ digitLimit := by
    rw [Value.isWritable, decide_eq_true_eq, Int.natAbs_natCast]
    exact Nat.length_toDigits_le_iff (by decide) (by decide)
  exact .int ((hdigits n).2 (Nat.lt_of_le_of_lt h ((hdigits bound).1 hbound)))

/-- The summary is written without loss if the number of rows is short enough to be written. -/
theorem isPayload_summary {founds : List (Option Entry)}
    (h : (Value.int founds.length).isWritable = true) :
    IsPayload (Summary.ofOutcomes founds).toValue := by
  have hcount (p : Option Entry → Bool) : IsPayload (Summary.count (founds.countP p)) :=
    isPayload_count h List.countP_le_length
  refine (IsObject.nil.cons _ ?weakNames |>.cons _ ?byCategory |>.cons _ (hcount _)
    |>.cons _ (hcount _) |>.cons _ (hcount _) |>.cons _ (hcount _)
    |>.cons _ (isPayload_count h le_rfl)).isPayload
  case weakNames =>
    refine IsObject.isPayload fun field hfield => ?_
    obtain ⟨⟨name, n⟩, hmem, rfl⟩ := List.mem_map.1 hfield
    obtain ⟨-, rfl⟩ := ((Summary.accounts_ofOutcomes founds).mem_weakNames name n).1 hmem
    exact ⟨⟨name, rfl⟩, hcount _⟩
  case byCategory =>
    refine IsObject.isPayload fun field hfield => ?_
    obtain ⟨_, hmem, rfl⟩ := List.mem_map.1 hfield
    obtain ⟨c, -, rfl⟩ := List.mem_map.1 hmem
    exact ⟨⟨c.name, rfl⟩, (IsObject.nil.cons _ (hcount _) |>.cons _ (hcount _)).isPayload⟩

/-- Whatever the headers and the texts of a table are, the findings and the summary of its scan
are written without loss. -/
theorem isPayload_scanResults {r : Registry} {config : ScanConfig} {t : TextTable}
    {records : List Value} {summary : Summary}
    (h : scanResults r config t.toTable = .ok (records, summary))
    (hrows : (Value.int t.rows.length).isWritable = true) :
    IsPayload (.list records) ∧ IsPayload summary.toValue := by
  by_cases hname : config.columns.name ∈ t.headers
  · rw [scanResults_eq_ok r hname] at h
    obtain ⟨rfl, rfl⟩ := Prod.mk.inj (Except.ok.inj h)
    refine ⟨.list fun record hrecord => ?_, isPayload_summary ?_⟩
    · obtain ⟨row, -, hrow⟩ := List.mem_filterMap.1 hrecord
      exact isPayload_findingOf hrow
    · rw [foundsOf, List.length_map]
      exact hrows
  · rw [scanResults_eq_error r hname] at h
    cases h

end CryptoAudit
