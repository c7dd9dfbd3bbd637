import CryptoAudit.Proofs.Outcome
import CryptoAudit.Settings.Load

/-!
# The taxonomy of a scan

The settings of a scan come with a registry. It is that of the file that the environment names, if
it names one, else that of the file that the settings name, else the built-in one. A file that is
named has to describe a registry.

## Main definitions

* `Resolves`: the registry that an environment and the fields of some settings ask for

## Main results

* `Resolves.loaded_of_named`: a file that the environment names has to describe the registry
* `loadSource_eq_ok_iff`, `resolves_of_loadSource`: the registry that is loaded, if any
* `exists_resolves_of_loadScanConfig`: the registry of the settings that a file describes
-/

namespace CryptoAudit

open Log (Logged)

/-- A registry is the one that an environment and the fields of some settings ask for: that of the
file that the variable names, if it names one, else that of the file that the settings name, if
they name one, else the built-in one. -/
inductive Resolves (files : Files) (env : Environment) (fields : List (Value × Value)) :
    Registry → Prop
  | ofEnvironment {name : String} {r : Registry} (named : field? taxonomyVariable env = some name)
      (nonempty : name ≠ "") (loaded : (loadTaxonomy files (Path.ofText name)).outcome = .ok r) :
      Resolves files env fields r
  | ofSettings {v : Value} {p : Path} {r : Registry}
      (unnamed : ∀ name, field? taxonomyVariable env = some name → name = "")
      (given : field? (.text "registry_file") fields = some v) (truthy : v.isTruthy = true)
      (path : pathOf v = .ok p) (loaded : (loadTaxonomy files p).outcome = .ok r) :
      Resolves files env fields r
  | builtin (unnamed : ∀ name, field? taxonomyVariable env = some name → name = "")
      (unset : ∀ v, field? (.text "registry_file") fields = some v → v.isTruthy = false) :
      Resolves files env fields Registry.builtin

/-- A taxonomy file that the variable names describes the registry. -/
theorem Resolves.loaded_of_named {files : Files} {env : Environment}
    {fields : List (Value × Value)} {r : Registry} (h : Resolves files env fields r)
    {name : String} (named : field? taxonomyVariable env = some name) (nonempty : name ≠ "") :
    (loadTaxonomy files (Path.ofText name)).outcome = .ok r := by
  cases h with
  | ofEnvironment named' _ loaded =>
    obtain rfl := Option.some.inj (named.symm.trans named')
    exact loaded
  | ofSettings unnamed => exact absurd (unnamed name named) nonempty
  | builtin unnamed => exact absurd (unnamed name named) nonempty

section Source

variable {files : Files} {env : Environment} {fields : List (Value × Value)}

theorem taxonomySource_of_named {name : String} (named : field? taxonomyVariable env = some name)
    (nonempty : name ≠ "") : taxonomySource env fields = some (.text name) := by
  rw [taxonomySource, named]
  exact if_pos nonempty

/-- An empty variable names no file, just as one that is not set. -/
theorem taxonomySource_of_unnamed
    (unnamed : ∀ name, field? taxonomyVariable env = some name → name = "") :
    taxonomySource env fields = (field? (.text "registry_file") fields).filter Value.isTruthy := by
  rw [taxonomySource]
  cases hname : field? taxonomyVariable env with
  | none => rfl
  | some name =>
    obtain rfl := unnamed name hname
    rfl

/-- The variable names a file, or else it is empty or not set. -/
theorem named_or_unnamed (env : Environment) :
    (∃ name, field? taxonomyVariable env = some name ∧ name ≠ "") ∨
      ∀ name, field? taxonomyVariable env = some name → name = "" := by
  cases field? taxonomyVariable env with
  | none => exact .inr nofun
  | some name =>
    by_cases hname : name = ""
    · refine .inr ?_
      rintro _ ⟨⟩
      exact hname
    · exact .inl ⟨name, rfl, hname⟩

/-- The registry of a source is that of the file that it names, and without a source there is
none. -/
theorem loadSource_eq_ok_iff {source : Option Value} {loaded : Option (Path × Registry)} :
    (loadSource files source).outcome = .ok loaded ↔
      source = none ∧ loaded = none ∨
        ∃ v p r, source = some v ∧ pathOf v = .ok p ∧ (loadTaxonomy files p).outcome = .ok r ∧
          loaded = some (p, r) := by
  cases source with
  | none =>
    have hnone : (loadSource files none).outcome = .ok none := rfl
    simp [hnone, eq_comm]
  | some v =>
    simp only [loadSource, Logged.outcome_bind_eq_ok_iff, Logged.ofExcept, Logged.outcome_pure,
      reduceCtorEq, false_and, false_or, Option.some.injEq, Except.ok.injEq]
    constructor
    · rintro ⟨p, hp, r, hr, rfl⟩
      exact ⟨v, p, r, rfl, hp, hr, rfl⟩
    · rintro ⟨_, p, r, rfl, hp, hr, rfl⟩
      exact ⟨p, hp, r, hr, rfl⟩

/-- What is loaded is what is asked for. -/
theorem resolves_of_loadSource {loaded : Option (Path × Registry)}
    (h : (loadSource files (taxonomySource env fields)).outcome = .ok loaded) :
    Resolves files env fields ((loaded.map Prod.snd).getD .builtin) := by
  rw [loadSource_eq_ok_iff] at h
  rcases named_or_unnamed env with ⟨name, named, nonempty⟩ | unnamed
  · rw [taxonomySource_of_named named nonempty] at h
    rcases h with ⟨hnone, -⟩ | ⟨v, p, r, hv, hp, hr, rfl⟩
    · cases hnone
    · cases hv
      cases hp
      exact .ofEnvironment named nonempty hr
  · rw [taxonomySource_of_unnamed unnamed] at h
    rcases h with ⟨hnone, rfl⟩ | ⟨v, p, r, hv, hp, hr, rfl⟩
    · rw [Option.map_none, Option.getD_none]
      apply Resolves.builtin unnamed
      intro v hv
      simpa [hv] using hnone
    · obtain ⟨given, truthy⟩ := Option.filter_eq_some_iff.1 hv
      exact .ofSettings unnamed given truthy hp hr

end Source

/-- The settings that a file describes have the registry that the environment and the fields of the
file ask for. -/
theorem exists_resolves_of_loadScanConfig {files : Files} {env : Environment} {path : Path}
    {config : ScanConfig} (h : (loadScanConfig files env path).outcome = .ok config) :
    ∃ fields, loadFields files path = .ok fields ∧
      Resolves files env fields config.registry := by
  obtain ⟨fields, hfields, h⟩ := Logged.outcome_bind_eq_ok_iff.1 h
  obtain ⟨inputFile, -, h⟩ := Logged.outcome_bind_eq_ok_iff.1 h
  obtain ⟨name, -, h⟩ := Logged.outcome_bind_eq_ok_iff.1 h
  obtain ⟨dataDir, -, h⟩ := Logged.outcome_bind_eq_ok_iff.1 h
  obtain ⟨output, -, h⟩ := Logged.outcome_bind_eq_ok_iff.1 h
  obtain ⟨written, -, h⟩ := Logged.outcome_bind_eq_ok_iff.1 h
  obtain ⟨columns, -, h⟩ := Logged.outcome_bind_eq_ok_iff.1 h
  obtain ⟨loaded, hloaded, h⟩ := Logged.outcome_bind_eq_ok_iff.1 h
  obtain ⟨categories, -, h⟩ := Logged.outcome_bind_eq_ok_iff.1 h
  obtain ⟨input, -, h⟩ := Logged.outcome_bind_eq_ok_iff.1 h
  refine ⟨fields, hfields, ?_⟩
  have hregistry : config.registry = (loaded.map Prod.snd).getD .builtin := by
    obtain ⟨-, -, -, -, -, -, -, hmake⟩ := ScanConfig.make_eq_ok_iff.1 (mapError_eq_ok_iff.1 h)
    cases loaded with
    | none =>
      obtain hnone : none = config.taxonomy := Except.ok.inj hmake
      rw [ScanConfig.registry, ← hnone]
      rfl
    | some file =>
      obtain hsome : some file.2 = config.taxonomy := Except.ok.inj hmake
      rw [ScanConfig.registry, ← hsome]
      rfl
  rw [hregistry]
  exact resolves_of_loadSource hloaded

end CryptoAudit
