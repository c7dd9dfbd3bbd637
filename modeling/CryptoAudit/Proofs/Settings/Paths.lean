import CryptoAudit.Proofs.Settings.Resolution
import CryptoAudit.Proofs.Settings.Snapshot

/-!
# Paths of settings

A YAML text denotes texts, numbers and the like, but no paths. So the paths of settings that are
loaded have all been read from texts, and are proper.

## Main definitions

* `Value.HasNoPath`: a value that is no path, and a mapping to none

## Main results

* `Yaml.Node.makesNoPath_value`: no node denotes a path
* `ScanConfig.hasProperPaths_of_load`: the paths of settings that are loaded
-/

namespace CryptoAudit

/-- The value is no path, and if it is a mapping, no path is the value of a key. -/
def Value.HasNoPath : Value → Prop
  | .path _ => False
  | .map entries => ∀ e ∈ entries, ∀ p, e.2 ≠ .path p
  | _ => True

theorem Value.HasNoPath.ne_path {v : Value} (h : v.HasNoPath) (p : Path) : v ≠ .path p := by
  rintro rfl
  exact h

section Fields

variable {κ β : Type} [BEq κ] {P : β → Prop}

/-- What holds of a new value and of all old ones holds of all after a key has been set. -/
theorem forall_mem_setField {k : κ} {v : β} {fields : List (κ × β)} (hv : P v)
    (h : ∀ e ∈ fields, P e.2) : ∀ e ∈ setField k v fields, P e.2 := by
  induction fields with
  | nil => simpa [setField] using hv
  | cons field fields ih =>
    obtain ⟨hfield, hfields⟩ := List.forall_mem_cons.1 h
    rw [setField]
    split
    · exact List.forall_mem_cons.2 ⟨hv, hfields⟩
    · exact List.forall_mem_cons.2 ⟨hfield, ih hfields⟩

theorem forall_mem_ofPairs {pairs : List (κ × β)} (h : ∀ e ∈ pairs, P e.2) :
    ∀ e ∈ ofPairs pairs, P e.2 := by
  unfold ofPairs
  refine List.foldlRecOn (motive := fun fields : List (κ × β) => ∀ e ∈ fields, P e.2)
    pairs _ (List.forall_mem_nil _) ?_
  intro fields hfields pair hpair
  exact forall_mem_setField (h pair hpair) hfields

theorem of_field?_eq_some {k : κ} {v : β} {fields : List (κ × β)} (h : ∀ e ∈ fields, P e.2)
    (hv : field? k fields = some v) : P v := by
  induction fields with
  | nil => cases hv
  | cons field fields ih =>
    obtain ⟨hfield, hfields⟩ := List.forall_mem_cons.1 h
    rw [field?] at hv
    split at hv
    · exact Option.some.inj hv ▸ hfield
    · exact ih hfields hv

end Fields

/-! ### Values of YAML texts -/

namespace Yaml

/-- Every value that comes out has no path. -/
def MakesNoPath (x : Except Fault Value) : Prop :=
  ∀ v, x = .ok v → v.HasNoPath

theorem makesNoPath_ok {v : Value} (h : v.HasNoPath) : MakesNoPath (.ok v) := by
  rintro w ⟨⟩
  exact h

theorem makesNoPath_error {e : Fault} : MakesNoPath (.error e) :=
  nofun

theorem makesNoPath_bind {α : Type} {x : Except Fault α} {f : α → Except Fault Value}
    (h : ∀ a, MakesNoPath (f a)) : MakesNoPath (x >>= f) := by
  intro v hv
  obtain ⟨a, -, ha⟩ := bind_eq_ok_iff.1 hv
  exact h a v ha

theorem makesNoPath_map {α : Type} {x : Except Fault α} {f : α → Value}
    (h : ∀ a, (f a).HasNoPath) : MakesNoPath (f <$> x) := by
  cases x with
  | error e => exact makesNoPath_error
  | ok a => exact makesNoPath_ok (h a)

theorem makesNoPath_intValue (s : String) : MakesNoPath (intValue s) := by
  have hint (isNegative : Bool) (n : Int) :
      MakesNoPath (pure (.int (if isNegative then -n else n))) := makesNoPath_ok trivial
  unfold intValue
  dsimp only
  split
  · exact makesNoPath_error
  · split
    any_goals exact makesNoPath_bind (hint _)
    split
    · exact makesNoPath_bind fun _ => makesNoPath_bind (hint _)
    · exact makesNoPath_bind (hint _)

theorem makesNoPath_floatValue (s : String) : MakesNoPath (floatValue s) := by
  have hfloat (isNegative : Bool) (x : Binary64) :
      MakesNoPath (pure (.float (if isNegative then x.neg else x))) := makesNoPath_ok trivial
  unfold floatValue
  dsimp only
  split
  · exact makesNoPath_error
  · split
    · exact makesNoPath_bind (hfloat _)
    · split
      · exact makesNoPath_bind (hfloat _)
      · split
        · exact makesNoPath_bind fun _ => makesNoPath_bind (hfloat _)
        · exact makesNoPath_bind (hfloat _)

theorem makesNoPath_truthValue (s : String) : MakesNoPath (truthValue s) := by
  unfold truthValue
  split
  · exact makesNoPath_ok trivial
  · exact makesNoPath_error

theorem makesNoPath_bytesValue (s : String) : MakesNoPath (bytesValue s) := by
  unfold bytesValue
  split
  · split
    · exact makesNoPath_ok trivial
    · exact makesNoPath_error
  · exact makesNoPath_error

theorem makesNoPath_timestampValue (s : String) : MakesNoPath (timestampValue s) := by
  have hmoment (t : TimeOfDay) (d : Date) :
      MakesNoPath (do return .moment (← Timestamp.momentOn d t)) :=
    makesNoPath_bind fun _ => makesNoPath_ok trivial
  unfold timestampValue
  split
  · unfold Timestamp.value
    split
    · exact makesNoPath_map fun _ => trivial
    · dsimp only
      split
      · split
        · exact makesNoPath_error
        · exact makesNoPath_bind (hmoment _)
      · exact makesNoPath_bind (hmoment _)
  · exact makesNoPath_error

namespace Node

theorem makesNoPath_scalar (tag : Tag) (s : String) : MakesNoPath (scalar tag s).value := by
  cases tag with
  | null => exact makesNoPath_ok trivial
  | bool => exact makesNoPath_truthValue s
  | int => exact makesNoPath_intValue s
  | float => exact makesNoPath_floatValue s
  | binary => exact makesNoPath_bytesValue s
  | timestamp => exact makesNoPath_timestampValue s
  | text => exact makesNoPath_ok trivial
  | _ => exact makesNoPath_error

theorem makesNoPath_sequence (tag : Tag) (items : List Node) :
    MakesNoPath (sequence tag items).value := by
  cases tag with
  | sequence | orderedMap | pairs => exact makesNoPath_map fun _ => trivial
  | _ => exact makesNoPath_error

/-- A mapping has no path if none of its entries maps to one. -/
theorem makesNoPath_mapping (tag : Tag) {entries : List (Node × Node)}
    (h : ∀ merged own, fields entries = .ok (merged, own) →
      ∀ e ∈ merged ++ own, ∀ p, e.2 ≠ .path p) : MakesNoPath (mapping tag entries).value := by
  cases tag with
  | mapping =>
    intro v hv
    rw [value] at hv
    obtain ⟨⟨merged, own⟩, hfields, hv⟩ := bind_eq_ok_iff.1 hv
    cases hv
    exact forall_mem_ofPairs (P := fun v : Value => ∀ p, v ≠ .path p) (h merged own hfields)
  | set => exact makesNoPath_bind fun _ => makesNoPath_ok trivial
  | null | text => exact makesNoPath_map fun _ => trivial
  | bool => exact makesNoPath_bind makesNoPath_truthValue
  | int => exact makesNoPath_bind makesNoPath_intValue
  | float => exact makesNoPath_bind makesNoPath_floatValue
  | binary => exact makesNoPath_bind makesNoPath_bytesValue
  | timestamp => exact makesNoPath_bind makesNoPath_timestampValue
  | _ => exact makesNoPath_error

/-- An entry that merges nothing comes before the mapping's own entries. -/
theorem fields_cons_eq_ok {k v : Node} {entries : List (Node × Node)}
    {merged own : List (Value × Value)} (hk : k.tag ≠ .mergeKey)
    (h : fields ((k, v) :: entries) = .ok (merged, own)) :
    ∃ key value own', v.value = .ok value ∧ fields entries = .ok (merged, own') ∧
      own = (key, value) :: own' := by
  rw [fields, if_neg hk] at h
  dsimp only at h
  split at h
  all_goals
    obtain ⟨_, -, h⟩ := bind_eq_ok_iff.1 h
    obtain ⟨key, -, h⟩ := bind_eq_ok_iff.1 h
    obtain ⟨value, hvalue, h⟩ := bind_eq_ok_iff.1 h
    obtain ⟨⟨merged', own'⟩, hrest, h⟩ := bind_eq_ok_iff.1 h
    cases h
    exact ⟨key, value, own', hvalue, hrest, rfl⟩

mutual

/-- No node denotes a path. -/
theorem makesNoPath_value : ∀ n : Node, MakesNoPath n.value
  | scalar tag s => makesNoPath_scalar tag s
  | sequence tag items => makesNoPath_sequence tag items
  | mapping tag entries => makesNoPath_mapping tag fun _ _ h => ne_path_of_fields entries h

/-- No entry maps to a path, whether it is merged or not. -/
theorem ne_path_of_fields : ∀ (entries : List (Node × Node)) {merged own : List (Value × Value)},
    fields entries = .ok (merged, own) → ∀ e ∈ merged ++ own, ∀ p, e.2 ≠ .path p
  | [], _, _, h => by
    cases h
    simp
  | (k, v) :: entries, merged, own, h => by
    by_cases hk : k.tag = .mergeKey
    · rw [fields, if_pos hk] at h
      obtain ⟨first, hfirst, h⟩ := bind_eq_ok_iff.1 h
      obtain ⟨⟨merged', own'⟩, hrest, h⟩ := bind_eq_ok_iff.1 h
      cases h
      rw [List.append_assoc]
      intro e he
      exact (List.mem_append.1 he).elim (ne_path_of_merged v hfirst e)
        (ne_path_of_fields entries hrest e)
    · obtain ⟨key, value, own', hvalue, hrest, rfl⟩ := fields_cons_eq_ok hk h
      have hfields := ne_path_of_fields entries hrest
      rw [List.forall_mem_append] at hfields ⊢
      refine ⟨hfields.1, List.forall_mem_cons.2 ⟨?_, hfields.2⟩⟩
      exact (makesNoPath_value v value hvalue).ne_path

/-- No entry of a merged mapping maps to a path. -/
theorem ne_path_of_merged : ∀ (n : Node) {entries : List (Value × Value)},
    n.merged = .ok entries → ∀ e ∈ entries, ∀ p, e.2 ≠ .path p
  | mapping _ nodes, _, h => by
    obtain ⟨⟨merged, own⟩, hfields, h⟩ := bind_eq_ok_iff.1 h
    cases h
    exact ne_path_of_fields nodes hfields
  | sequence _ items, _, h => ne_path_of_mergedItems items h
  | scalar _ _, _, h => by cases h

/-- No entry of several merged mappings maps to a path. -/
theorem ne_path_of_mergedItems : ∀ (items : List Node) {entries : List (Value × Value)},
    mergedItems items = .ok entries → ∀ e ∈ entries, ∀ p, e.2 ≠ .path p
  | [], _, h => by
    cases h
    simp
  | mapping _ nodes :: items, _, h => by
    obtain ⟨⟨merged, own⟩, hfields, h⟩ := bind_eq_ok_iff.1 h
    obtain ⟨rest, hrest, h⟩ := bind_eq_ok_iff.1 h
    cases h
    intro e he
    exact (List.mem_append.1 he).elim (ne_path_of_mergedItems items hrest e)
      (ne_path_of_fields nodes hfields e)
  | sequence _ _ :: _, _, h => by simp [mergedItems] at h
  | scalar _ _ :: _, _, h => by simp [mergedItems] at h

end

end Node

/-- A mapping that a text denotes maps nothing to a path. -/
theorem ne_path_of_parse {s : String} {entries : List (Value × Value)}
    (h : parse s = .ok (.map entries)) : ∀ e ∈ entries, ∀ p, e.2 ≠ .path p := by
  have hparse : MakesNoPath (parse s) := by
    unfold parse
    dsimp only
    split
    · exact makesNoPath_error
    · apply makesNoPath_bind
      intro root
      cases root with
      | none => exact makesNoPath_ok trivial
      | some root => exact root.makesNoPath_value
  exact hparse _ h

end Yaml

/-! ### Paths of loaded settings -/

theorem ne_path_of_loadFields {files : Files} {path : Path} {fields : List (Value × Value)}
    (h : loadFields files path = .ok fields) : ∀ e ∈ fields, ∀ p, e.2 ≠ .path p := by
  obtain ⟨isThere, -, h⟩ := bind_eq_ok_iff.1 h
  dsimp only at h
  split at h
  · cases h
  · obtain ⟨text, -, h⟩ := bind_eq_ok_iff.1 h
    obtain ⟨v, hparse, h⟩ := bind_eq_ok_iff.1 h
    split at h
    · cases h
      exact Yaml.ne_path_of_parse (mapError_eq_ok_iff.1 hparse)
    · cases h

theorem isProper_join {p q : Path} (hp : p.IsProper) (hq : q.IsProper) : (p.join q).IsProper := by
  rw [Path.join]
  split
  · intro part hpart
    exact (List.mem_append.1 hpart).elim (hp part) (hq part)
  · exact hq

theorem isProper_of_pathOf {v : Value} {p : Path} (hv : ∀ q, v ≠ .path q) (h : pathOf v = .ok p) :
    p.IsProper := by
  cases v <;> cases h
  case text s => exact Path.isProper_ofText s
  case path => exact absurd rfl (hv p)

theorem isProper_of_pathBelow {directory p : Path} {v : Value} (hdirectory : directory.IsProper)
    (hv : ∀ q, v ≠ .path q) (h : pathBelow directory v = .ok p) : p.IsProper := by
  cases v <;> cases h
  case text s => exact isProper_join hdirectory (Path.isProper_ofText s)
  case path q => exact absurd rfl (hv q)

section Fields

variable {fields : List (Value × Value)} (hfields : ∀ e ∈ fields, ∀ p, e.2 ≠ .path p)

include hfields

theorem ne_path_of_field? {k v : Value} (h : field? k fields = some v) (p : Path) : v ≠ .path p :=
  of_field?_eq_some (P := fun v : Value => ∀ p, v ≠ .path p) hfields h p

theorem isProper_of_pathField {name : String} {usual p : Path} (husual : usual.IsProper)
    (h : pathField fields name usual = .ok p) : p.IsProper := by
  rw [pathField] at h
  split at h
  · next v hv => exact isProper_of_pathOf (ne_path_of_field? hfields hv) h
  · exact Except.ok.inj h ▸ husual

theorem ne_path_of_presentField {name : String} {v : Value}
    (h : presentField fields name = .ok v) (p : Path) : v ≠ .path p := by
  rw [presentField] at h
  split at h
  · next w hw =>
    split at h
    · exact Except.ok.inj h ▸ ne_path_of_field? hfields hw p
    · cases h
  · cases h

theorem ne_path_of_taxonomySource {env : Environment} {v : Value}
    (h : taxonomySource env fields = some v) (p : Path) : v ≠ .path p := by
  rcases named_or_unnamed env with ⟨name, named, nonempty⟩ | unnamed
  · rw [taxonomySource_of_named named nonempty] at h
    cases h
    exact nofun
  · rw [taxonomySource_of_unnamed unnamed] at h
    obtain ⟨hfield, -⟩ := Option.filter_eq_some_iff.1 h
    exact ne_path_of_field? hfields hfield p

end Fields

/-- The paths of settings that are loaded are proper. -/
theorem ScanConfig.hasProperPaths_of_load {files : Files} {env : Environment} {path : Path}
    {config : ScanConfig} (h : (loadScanConfig files env path).outcome = .ok config) :
    config.HasProperPaths := by
  obtain ⟨fields, hload, h⟩ := Log.Logged.outcome_bind_eq_ok_iff.1 h
  have hfields := ne_path_of_loadFields hload
  obtain ⟨inputFile, hinputFile, h⟩ := Log.Logged.outcome_bind_eq_ok_iff.1 h
  obtain ⟨name, -, h⟩ := Log.Logged.outcome_bind_eq_ok_iff.1 h
  obtain ⟨dataDir, hdataDir, h⟩ := Log.Logged.outcome_bind_eq_ok_iff.1 h
  obtain ⟨output, houtput, h⟩ := Log.Logged.outcome_bind_eq_ok_iff.1 h
  obtain ⟨written, -, h⟩ := Log.Logged.outcome_bind_eq_ok_iff.1 h
  obtain ⟨columns, -, h⟩ := Log.Logged.outcome_bind_eq_ok_iff.1 h
  obtain ⟨loaded, hloaded, h⟩ := Log.Logged.outcome_bind_eq_ok_iff.1 h
  obtain ⟨categories, -, h⟩ := Log.Logged.outcome_bind_eq_ok_iff.1 h
  obtain ⟨input, hinput, h⟩ := Log.Logged.outcome_bind_eq_ok_iff.1 h
  refine hasProperPaths_of_make ?_ (mapError_eq_ok_iff.1 h)
  rintro p (hp | hp | hp)
  · cases hp
    have hdirectory := isProper_of_pathField hfields (Path.isProper_ofText "dataset") hdataDir
    exact isProper_of_pathBelow hdirectory (ne_path_of_presentField hfields hinputFile) hinput
  · cases hp
    exact isProper_of_pathField hfields (Path.isProper_ofText "outputs") houtput
  · obtain ⟨⟨file, r⟩, rfl, hfile⟩ := Option.map_eq_some_iff.1 hp
    cases hfile
    rcases loadSource_eq_ok_iff.1 hloaded with ⟨-, hnone⟩ | ⟨v, q, r', hsource, hq, -, hsome⟩
    · cases hnone
    · cases hsome
      exact isProper_of_pathOf (ne_path_of_taxonomySource hfields hsource) hq

end CryptoAudit
