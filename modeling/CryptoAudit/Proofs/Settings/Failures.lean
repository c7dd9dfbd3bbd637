import CryptoAudit.Proofs.Settings.Resolution
import CryptoAudit.Proofs.Taxonomy.Grammar

/-!
# Failures of loading settings

Loading the settings of a scan goes through steps that may fail. Most of them refuse a value with
an error that tells what is wrong: a key that is missing, categories that are no list, columns or
settings that are not valid, a taxonomy file that is not there or that describes no registry. But
three steps make a path of a value without looking at it first. There a value that is no path
fails with a complaint about its type.

## Main definitions

* `Value.IsPathlike`: a path can be made of a value
* `SettingsError.IsDocumented`: the errors that refuse settings
* `Escapes`: the other errors, with the values that they come from
* `AbsentOrYaml`: nothing lies at the end of a path, or a file that can be read

## Main results

* `loadFields_error`, `loadTaxonomy_error`: the failures of loading a taxonomy file
* `scanConfigOf_error`: the failures of the steps after the two required keys
* `loadScanConfig_failures`: all failures of loading settings
* `loadScanConfig_number`: an input file that is a number
-/

namespace CryptoAudit

open Log (Logged)

/-! ### Kinds of errors -/

/-- A path can be made of the value. -/
def Value.IsPathlike : Value → Prop
  | .text _ | .path _ => True
  | _ => False

/-- The errors that refuse settings: a file that is not there, or content that is not valid. -/
inductive SettingsError.IsDocumented : SettingsError → Prop
  | noFile (path : String) : IsDocumented (.noFile path)
  | notMapping (path typeText : String) : IsDocumented (.notMapping path typeText)
  | missingKey (key : String) : IsDocumented (.missingKey key)
  | tooManyDigits : IsDocumented .tooManyDigits
  | categoriesNotList : IsDocumented .categoriesNotList
  | invalidColumns (errors : List FieldError) : IsDocumented (.invalidColumns errors)
  | invalidConfig (errors : List FieldError) : IsDocumented (.invalidConfig errors)
  | taxonomy {e : TaxonomyError} (content : e.RefusesContent) : IsDocumented (.taxonomy e)

/-- The other errors of loading settings. They are about a directory, a taxonomy file or an input
file that is given by a value of which no path can be made, or about the path of a taxonomy file
that is too long to be looked up. -/
inductive Escapes (files : Files) (env : Environment) (fields : List (Value × Value)) :
    SettingsError → Prop
  | directory {name : String} {v : Value} (one : name = "data_dir" ∨ name = "output_root")
      (given : field? (.text name) fields = some v) (notPath : ¬v.IsPathlike) :
      Escapes files env fields (.notPath v)
  | taxonomy {v : Value} (given : taxonomySource env fields = some v) (notPath : ¬v.IsPathlike) :
      Escapes files env fields (.notPath v)
  | input {v : Value} (given : field? (.text "input_file") fields = some v)
      (notPath : ¬v.IsPathlike) : Escapes files env fields (.notJoinable v)
  | unknown {v : Value} {p : Path} {e : FileError} (given : taxonomySource env fields = some v)
      (path : pathOf v = .ok p) (tooLong : files.contains p = .error e) :
      Escapes files env fields (.unreadable e)

/-- A field is there and counts as present. -/
def IsPresent (fields : List (Value × Value)) (name : String) : Prop :=
  ∃ v, field? (.text name) fields = some v ∧ v.isTruthy = true

/-- Nothing lies at the end of a path, or a file does whose text has a value. -/
def AbsentOrYaml (files : Files) (p : Path) : Prop :=
  files.contains p = .ok true →
    ∃ text v, files.readLines p = .ok text ∧ Yaml.parse text = .ok v

/-! ### The failures of single steps -/

section Steps

variable {files : Files} {env : Environment} {fields : List (Value × Value)} {name : String}
  {v : Value} {e : SettingsError}

theorem presentField_eq_ok_iff :
    presentField fields name = .ok v ↔ field? (.text name) fields = some v ∧ v.isTruthy = true := by
  rw [presentField]
  cases field? (.text name) fields with
  | none => simp
  | some w =>
    by_cases hw : w.isTruthy = true
    · simp only [hw, if_true, Except.ok.injEq, Option.some.injEq]
      constructor
      · rintro rfl
        exact ⟨rfl, hw⟩
      · exact And.left
    · simp only [hw, if_false, reduceCtorEq, Option.some.injEq, false_iff, not_and]
      rintro rfl
      exact hw

/-- A required field that is not present is the one that is named. -/
theorem presentField_of_not_present (h : ¬IsPresent fields name) :
    presentField fields name = .error (.missingKey name) := by
  rw [presentField]
  cases hfield : field? (.text name) fields with
  | none => rfl
  | some v => exact if_neg fun htruthy => h ⟨v, hfield, htruthy⟩

theorem presentField_error (h : presentField fields name = .error e) : e = .missingKey name := by
  by_cases hpresent : IsPresent fields name
  · obtain ⟨v, hv⟩ := hpresent
    cases h.symm.trans (presentField_eq_ok_iff.2 hv)
  · cases h.symm.trans (presentField_of_not_present hpresent)
    rfl

theorem pathOf_eq_error_iff : pathOf v = .error e ↔ ¬v.IsPathlike ∧ e = .notPath v := by
  cases v <;> simp [pathOf, Value.IsPathlike, eq_comm]

theorem pathBelow_eq_error_iff {directory : Path} :
    pathBelow directory v = .error e ↔ ¬v.IsPathlike ∧ e = .notJoinable v := by
  cases v <;> simp [pathBelow, Value.IsPathlike, eq_comm]

theorem pathField_eq_error_iff {usual : Path} :
    pathField fields name usual = .error e ↔
      ∃ v, field? (.text name) fields = some v ∧ ¬v.IsPathlike ∧ e = .notPath v := by
  rw [pathField]
  cases field? (.text name) fields with
  | none => simp
  | some v => simp [pathOf_eq_error_iff]

theorem writtenText_error (h : writtenText v = .error e) : e = .tooManyDigits := by
  rw [writtenText] at h
  split at h <;> cases h
  rfl

theorem listedCategories_error (h : listedCategories fields = .error e) :
    e = .categoriesNotList := by
  rw [listedCategories] at h
  split at h <;> cases h
  rfl

/-! ### The failures of loading a taxonomy file -/

/-- A file that is not there or can be read fails only with what it holds, unless its path is too
long to be looked up. -/
theorem loadFields_error {p : Path} (hfile : AbsentOrYaml files p)
    (h : loadFields files p = .error e) :
    (∃ f, files.contains p = .error f ∧ e = .unreadable f) ∨ e.IsDocumented := by
  rw [loadFields] at h
  cases hthere : files.contains p with
  | error f =>
    rw [hthere] at h
    cases h
    exact .inl ⟨f, rfl, rfl⟩
  | ok isThere =>
    rw [hthere] at h
    refine .inr ?_
    cases isThere with
    | false =>
      cases h
      exact .noFile p.text
    | true =>
      obtain ⟨text, v, htext, hv⟩ := hfile hthere
      simp only [htext, hv, Except.mapError, bind, Except.bind, Bool.not_true, Bool.false_eq_true,
        if_false] at h
      cases v <;> cases h <;> exact .notMapping _ _

/-- The taxonomy in such a file fails only with what the file holds, too. -/
theorem loadTaxonomy_error {p : Path} (hfile : AbsentOrYaml files p)
    (h : (loadTaxonomy files p).outcome = .error e) :
    (∃ f, files.contains p = .error f ∧ e = .unreadable f) ∨ e.IsDocumented := by
  rcases Logged.outcome_bind_eq_error_iff.1 h with h | ⟨content, -, h⟩
  · exact loadFields_error hfile h
  · refine .inr ?_
    rcases Logged.outcome_bind_eq_error_iff.1 h with h | ⟨r, -, h⟩
    · obtain ⟨cause, hcause, rfl⟩ := mapError_eq_error_iff.1 h
      rcases Registry.ofConfig_cases content with ⟨⟨r, hr⟩, -⟩ | ⟨cause', hcause', -, hrefuses⟩
      · cases hr.symm.trans hcause
      · cases hcause'.symm.trans hcause
        exact .taxonomy hrefuses
    · cases h

/-- A source fails only if no path can be made of it or if its file fails. -/
theorem loadSource_error {source : Option Value}
    (h : (loadSource files source).outcome = .error e) :
    ∃ v, source = some v ∧ (¬v.IsPathlike ∧ e = .notPath v ∨
      ∃ p, pathOf v = .ok p ∧ (loadTaxonomy files p).outcome = .error e) := by
  cases source with
  | none => cases h
  | some v =>
    refine ⟨v, rfl, ?_⟩
    rcases Logged.outcome_bind_eq_error_iff.1 h with h | ⟨p, hp, h⟩
    · exact .inl (pathOf_eq_error_iff.1 h)
    · rcases Logged.outcome_bind_eq_error_iff.1 h with h | ⟨r, -, h⟩
      · exact .inr ⟨p, hp, h⟩
      · cases h

/-! ### The failures of loading settings -/

/-- Every failure is documented or is one of those that escape. -/
theorem scanConfigOf_error
    (htaxonomy : ∀ v p, taxonomySource env fields = some v → pathOf v = .ok p →
      AbsentOrYaml files p)
    (h : (scanConfigOf files env fields).outcome = .error e) :
    e.IsDocumented ∨ Escapes files env fields e := by
  rcases Logged.outcome_bind_eq_error_iff.1 h with h | ⟨input, hinput, h⟩
  · rw [presentField_error h]
    exact .inl (.missingKey _)
  rcases Logged.outcome_bind_eq_error_iff.1 h with h | ⟨column, -, h⟩
  · rw [presentField_error h]
    exact .inl (.missingKey _)
  rcases Logged.outcome_bind_eq_error_iff.1 h with h | ⟨dataDir, -, h⟩
  · obtain ⟨v, given, notPath, rfl⟩ := pathField_eq_error_iff.1 h
    exact .inr (.directory (.inl rfl) given notPath)
  rcases Logged.outcome_bind_eq_error_iff.1 h with h | ⟨output, -, h⟩
  · obtain ⟨v, given, notPath, rfl⟩ := pathField_eq_error_iff.1 h
    exact .inr (.directory (.inr rfl) given notPath)
  rcases Logged.outcome_bind_eq_error_iff.1 h with h | ⟨written, -, h⟩
  · rw [writtenText_error h]
    exact .inl .tooManyDigits
  rcases Logged.outcome_bind_eq_error_iff.1 h with h | ⟨columns, -, h⟩
  · obtain ⟨errors, -, rfl⟩ := mapError_eq_error_iff.1 h
    exact .inl (.invalidColumns errors)
  rcases Logged.outcome_bind_eq_error_iff.1 h with h | ⟨loaded, -, h⟩
  · obtain ⟨v, given, ⟨notPath, rfl⟩ | ⟨p, path, h⟩⟩ := loadSource_error h
    · exact .inr (.taxonomy given notPath)
    · rcases loadTaxonomy_error (htaxonomy v p given path) h with ⟨f, tooLong, rfl⟩ | hdocumented
      · exact .inr (.unknown given path tooLong)
      · exact .inl hdocumented
  rcases Logged.outcome_bind_eq_error_iff.1 h with h | ⟨categories, -, h⟩
  · rw [listedCategories_error h]
    exact .inl .categoriesNotList
  rcases Logged.outcome_bind_eq_error_iff.1 h with h | ⟨file, -, h⟩
  · obtain ⟨notPath, rfl⟩ := pathBelow_eq_error_iff.1 h
    exact .inr (.input (presentField_eq_ok_iff.1 hinput).1 notPath)
  · obtain ⟨errors, -, rfl⟩ := mapError_eq_error_iff.1 h
    exact .inl (.invalidConfig errors)

/-- If the fields of the settings can be read, and the taxonomy file, if there is one, too, then the
settings are loaded or refused with a documented error, unless a value is given of which no path can
be made or the path of a taxonomy file is too long. A required key that is not present is always
named. -/
theorem loadScanConfig_failures {path : Path} (hfields : loadFields files path = .ok fields)
    (htaxonomy : ∀ v p, taxonomySource env fields = some v → pathOf v = .ok p →
      AbsentOrYaml files p) :
    ((∃ config, (loadScanConfig files env path).outcome = .ok config) ∨
      ∃ e, (loadScanConfig files env path).outcome = .error e ∧
        (e.IsDocumented ∨ Escapes files env fields e)) ∧
    (¬IsPresent fields "input_file" →
      (loadScanConfig files env path).outcome = .error (.missingKey "input_file")) ∧
    (IsPresent fields "input_file" → ¬IsPresent fields "name_col" →
      (loadScanConfig files env path).outcome = .error (.missingKey "name_col")) := by
  have hload : (loadScanConfig files env path).outcome =
      (scanConfigOf files env fields).outcome :=
    Logged.outcome_bind_ok hfields
  rw [hload]
  refine ⟨?outcome, ?input, ?column⟩
  case outcome =>
    cases h : (scanConfigOf files env fields).outcome with
    | ok config => exact .inl ⟨config, rfl⟩
    | error e => exact .inr ⟨e, rfl, scanConfigOf_error htaxonomy h⟩
  case input =>
    intro hinput
    exact Logged.outcome_bind_error (presentField_of_not_present hinput)
  case column =>
    rintro ⟨v, hv⟩ hcolumn
    have hstep : (Logged.ofExcept (presentField fields "input_file")).outcome = .ok v :=
      presentField_eq_ok_iff.2 hv
    rw [scanConfigOf, Logged.outcome_bind_ok hstep]
    exact Logged.outcome_bind_error (presentField_of_not_present hcolumn)

end Steps

/-- Settings with a taxonomy file and without a name column. -/
def columnlessFiles : Files :=
  ⟨[(Path.ofText "s", .file (.text "input_file: t.csv\nregistry_file: tax.yaml")),
    (Path.ofText "tax.yaml", .file (.text "algorithms: []"))]⟩

/-- The name column is missed before the taxonomy file is found to be wrong. -/
theorem loadScanConfig_failures_columnless :
    ∃ fields, loadFields columnlessFiles (Path.ofText "s") = .ok fields ∧
      (∀ v p, taxonomySource [] fields = some v → pathOf v = .ok p →
        AbsentOrYaml columnlessFiles p) ∧
      (loadScanConfig columnlessFiles [] (Path.ofText "s")).outcome =
        .error (.missingKey "name_col") := by
  have hload : ((loadFields columnlessFiles (Path.ofText "s")).toOption.map fun fields =>
      ((field? (.text "input_file") fields).any Value.isTruthy,
        (field? (.text "name_col") fields).isSome,
        (taxonomySource [] fields).bind fun v => (pathOf v).toOption)) =
          some (true, false, some (Path.ofText "tax.yaml")) := by decide +kernel
  have htext : columnlessFiles.readLines (Path.ofText "tax.yaml") = .ok "algorithms: []" :=
    eq_ok_of_toOption (by decide +kernel)
  have hvalue : (Yaml.parse "algorithms: []").toOption.isSome = true := by decide +kernel
  obtain ⟨fields, hfields, hprobe⟩ := Option.map_eq_some_iff.1 hload
  simp only [Prod.mk.injEq] at hprobe
  obtain ⟨hinput, hcolumn, hsource⟩ := hprobe
  have htaxonomy : ∀ v p, taxonomySource [] fields = some v → pathOf v = .ok p →
      AbsentOrYaml columnlessFiles p := by
    intro v p hv hp _
    obtain ⟨value, hvalue⟩ := Option.isSome_iff_exists.1 hvalue
    rw [hv, Option.bind_some, hp] at hsource
    obtain rfl : p = Path.ofText "tax.yaml" := Option.some.inj hsource
    exact ⟨_, value, htext, eq_ok_of_toOption hvalue⟩
  obtain ⟨-, -, hmissing⟩ := loadScanConfig_failures (eq_ok_of_toOption hfields) htaxonomy
  refine ⟨fields, eq_ok_of_toOption hfields, htaxonomy, hmissing ?_ ?_⟩
  · obtain ⟨v, hv, htruthy⟩ := (Option.any_eq_true _ _).1 hinput
    exact ⟨v, hv, htruthy⟩
  · rintro ⟨v, hv, -⟩
    rw [hv] at hcolumn
    cases hcolumn

/-- Settings whose input file is a number, without quotes around it. -/
def numberFiles : Files :=
  ⟨[(Path.ofText "s", .file (.text "input_file: 2024\nname_col: a"))]⟩

/-- An input file that is a number escapes with a complaint about its type. -/
theorem loadScanConfig_number :
    ∃ fields v, loadFields numberFiles (Path.ofText "s") = .ok fields ∧
      taxonomySource [] fields = none ∧
      (loadScanConfig numberFiles [] (Path.ofText "s")).outcome = .error (.notJoinable v) ∧
      ¬(SettingsError.notJoinable v).IsDocumented := by
  have hload : ((loadFields numberFiles (Path.ofText "s")).toOption.map fun fields =>
      (taxonomySource [] fields).isNone) = some true := by decide +kernel
  have herror : (match (loadScanConfig numberFiles [] (Path.ofText "s")).outcome with
    | .error (.notJoinable _) => true
    | _ => false) = true := by decide +kernel
  obtain ⟨fields, hfields, hsource⟩ := Option.map_eq_some_iff.1 hload
  split at herror
  · rename_i v hv
    exact ⟨fields, v, eq_ok_of_toOption hfields, Option.isNone_iff_eq_none.1 hsource, hv, nofun⟩
  · cases herror

end CryptoAudit
