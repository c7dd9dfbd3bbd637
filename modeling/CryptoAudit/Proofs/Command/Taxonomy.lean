import CryptoAudit.Proofs.Command.ExitCode
import CryptoAudit.Proofs.Log.Sink
import CryptoAudit.Proofs.Settings.Resolution

/-!
# The taxonomy of a run

Before a run classifies names, it loads the environment file and then the settings. Until then it
writes nothing but the console, so it reads all files as they were when it started. If there are
settings, their registry is used for the names of the command line as it is for a table. But the
names of the command line may be classified without settings, and then it is the built-in registry
that is used, whether or not the environment names a taxonomy file.

## Main definitions

* `Quiet`: nothing has been written to the store
* `namesRegistry`, `report`: the two parts of a run that classifies the names of its command line
* `nameRecord`: the log record with the report on a name
* `Classifies`: a run classifies its names against a registry

## Main results

* `Quiet.exec_perform`, `Quiet.exec_configure`: steps that write nothing to the store
* `report_eq_deliver`: one record for each name, in order
* `classifies_of_settings`, `classifies_of_no_settings`: the registry of a run with settings, and
  of one without them
* `run_classifies`: the registry of any run, or its failure
* `run_classifies_unnamed`: a taxonomy file that is not used
-/

namespace CryptoAudit

namespace Command

open Log (Session Logged)

/-- The store is still the given one, and no log file is open. -/
structure Quiet (files : Files) (s : State) : Prop where
  sink : s.session.sink = none
  files : s.files = files

namespace Quiet

variable {files : Files} {s : State} (h : Quiet files s) (now : Moment)

theorem start (files : Files) : Quiet files ⟨Session.start, files, ""⟩ :=
  ⟨rfl, rfl⟩

include h

theorem exec_files : Action.files.exec s = (.ok files, s) := by
  rw [← h.files]
  rfl

theorem exec_deliver (records : List Log.Record) :
    ∃ s', (Action.deliver now records).exec s = (.ok (), s') ∧ Quiet files s' := by
  refine ⟨_, rfl, h.sink, ?_⟩
  exact (Session.files_deliverAll h.sink now s.files records).trans h.files

/-- A computation that succeeds is an action with the same result. -/
theorem exec_perform {ε α : Type} (failure : ε → Failure) {x : Logged ε α} {a : α}
    (hx : x.outcome = .ok a) :
    ∃ s', (Action.perform now failure x).exec s = (.ok a, s') ∧ Quiet files s' := by
  obtain ⟨s', hs', hquiet⟩ := h.exec_deliver now x.records
  refine ⟨s', ?_, hquiet⟩
  rw [Action.perform, Action.exec_bind_ok hs', hx]
  rfl

/-- A computation that fails is an action that fails. -/
theorem exec_perform_error {ε α : Type} (failure : ε → Failure) {x : Logged ε α} {e : ε}
    (hx : x.outcome = .error e) :
    ∃ s', (Action.perform now failure x).exec s = (.error (failure e), s') := by
  obtain ⟨s', hs', -⟩ := h.exec_deliver now x.records
  refine ⟨s', ?_⟩
  rw [Action.perform, Action.exec_bind_ok hs', hx]
  rfl

/-- The console alone is always set up. -/
theorem exec_configure (level : Log.Level) :
    ∃ s', (Action.configure now level none).exec s = (.ok (), s') ∧ Quiet files s' := by
  refine ⟨_, rfl, rfl, ?_⟩
  exact (Session.files_deliver rfl now s.files _).trans h.files

end Quiet

/-! ### The parts of a run that classifies the names of its command line -/

/-- Load the registry for the names of the command line. -/
def namesRegistry (now : Moment) (env : Environment) (o : Options) : Action Registry := do
  let env ← Action.perform now .environment
    (Environment.load (← Action.files) env (Path.ofText o.environmentFile))
  Action.configure now o.consoleLevel none
  registryAt now env (Path.ofText o.config)

/-- Report on names, and end with zero. -/
def report (now : Moment) (r : Registry) (names : List String) : Action Nat := do
  names.forM fun name => Action.tell now .info (nameLine r name)
  return 0

/-- With names on the command line the program loads a registry and reports on the names. -/
theorem act_eq_report (now : Moment) (env : Environment) (workbooks : WorkbookReader) {o : Options}
    (hnames : o.names ≠ []) :
    act now env workbooks o = namesRegistry now env o >>= fun r => report now r o.names := by
  simp [act, classifyNames, namesRegistry, report, hnames]

/-- The log record with the report on a name. -/
def nameRecord (r : Registry) (name : String) : Log.Record :=
  ⟨.info, "main", nameLine r name⟩

/-- To deliver no records changes nothing. -/
theorem deliver_nil (now : Moment) : Action.deliver now [] = pure () := by
  funext s
  change ((Except.ok (), { s with console := s.console ++ "" }) : Except Failure Unit × State) = _
  rw [String.append_empty]
  rfl

/-- Records are delivered one after the other. -/
theorem deliver_cons (now : Moment) (record : Log.Record) (records : List Log.Record) :
    Action.deliver now (record :: records) =
      Action.deliver now [record] >>= fun _ => Action.deliver now records := by
  funext s
  change ((Except.ok (), _) : Except Failure Unit × State) = (Except.ok (), _)
  simp only [Log.Session.deliverAll, String.append_assoc, String.append_empty]

/-- Reporting on names is to deliver one record for each of them, in order. -/
theorem report_eq_deliver (now : Moment) (r : Registry) (names : List String) :
    report now r names = Action.deliver now (names.map (nameRecord r)) >>= fun _ => return 0 := by
  induction names with
  | nil => rw [List.map_nil, deliver_nil, pure_bind]; rfl
  | cons name names ih =>
    have hstep : report now r (name :: names) =
        Action.deliver now [nameRecord r name] >>= fun _ => report now r names := by
      simp [report, Action.tell, nameRecord]
    rw [hstep, ih, List.map_cons, deliver_cons now _ (names.map _), bind_assoc]

/-- Reporting on names does not fail. -/
theorem exists_exec_report (now : Moment) (r : Registry) (names : List String) (s : State) :
    ∃ s', (report now r names).exec s = (.ok 0, s') := by
  rw [report_eq_deliver]
  exact ⟨_, rfl⟩

/-- A run classifies its names against a registry. Once it has loaded what it needs, it reports on
each name of its command line with this registry and ends with zero, or without such names it scans
with settings that have this registry. -/
inductive Classifies (now : Moment) (files : Files) (env : Environment)
    (workbooks : WorkbookReader) (o : Options) (r : Registry) : Prop
  | names {s s' : State} (given : o.names ≠ [])
      (loaded : (namesRegistry now env o).exec ⟨Session.start, files, ""⟩ = (.ok r, s))
      (reported : (report now r o.names).exec s = (.ok 0, s'))
      (whole : (act now env workbooks o).exec ⟨Session.start, files, ""⟩ = (.ok 0, s'))
  | table {config : ScanConfig} {s : State} (notGiven : o.names = [])
      (loaded : (settings now env o).exec ⟨Session.start, files, ""⟩ = (.ok config, s))
      (registry : config.registry = r)
      (whole : (act now env workbooks o).exec ⟨Session.start, files, ""⟩ =
        (scan now workbooks o config).exec s)

section Run

variable {now : Moment} {files : Files} {env env' : Environment} {workbooks : WorkbookReader}
  {o : Options}

/-- A run that has loaded a registry for its names reports on them. -/
theorem Classifies.of_namesRegistry {r : Registry} {s : State} (hnames : o.names ≠ [])
    (hloaded : (namesRegistry now env o).exec ⟨Session.start, files, ""⟩ = (.ok r, s)) :
    Classifies now files env workbooks o r := by
  obtain ⟨s', hreport⟩ := exists_exec_report now r o.names s
  apply Classifies.names hnames hloaded hreport
  rw [act_eq_report now env workbooks hnames, Action.exec_bind_ok hloaded, hreport]

variable (henv : (Environment.load files env (Path.ofText o.environmentFile)).outcome = .ok env')

include henv

/-- Once the environment is loaded, a scan requires its settings. -/
theorem exec_settings (now : Moment) :
    ∃ s, Quiet files s ∧ (settings now env o).exec ⟨Session.start, files, ""⟩ =
      (Action.ofExcept .file (files.require (Path.ofText o.config) "scan.yaml") >>= fun _ =>
        Action.perform now .settings
          (loadScanConfig files env' (Path.ofText o.config))).exec s := by
  have hstart := Quiet.start files
  obtain ⟨s, hload, hquiet⟩ := hstart.exec_perform now .environment henv
  refine ⟨s, hquiet, ?_⟩
  rw [settings, Action.exec_bind_ok hstart.exec_files, Action.exec_bind_ok hload,
    Action.exec_bind_ok hquiet.exec_files]

/-- Once the environment is loaded, the names of the command line ask whether there are
settings. -/
theorem exec_namesRegistry (now : Moment) :
    ∃ s, Quiet files s ∧ (namesRegistry now env o).exec ⟨Session.start, files, ""⟩ =
      (Action.ofExcept .file (files.contains (Path.ofText o.config)) >>= fun isThere =>
        if isThere then do
          return (← Action.perform now .settings
            (loadScanConfig files env' (Path.ofText o.config))).registry
        else return Registry.builtin).exec s := by
  have hstart := Quiet.start files
  obtain ⟨s, hload, hquiet⟩ := hstart.exec_perform now .environment henv
  obtain ⟨s', hconfigure, hquiet'⟩ := hquiet.exec_configure now o.consoleLevel
  refine ⟨s', hquiet', ?_⟩
  rw [namesRegistry, Action.exec_bind_ok hstart.exec_files, Action.exec_bind_ok hload,
    Action.exec_bind_ok hconfigure, registryAt, Action.exec_bind_ok hquiet'.exec_files]

/-- With settings that can be loaded, their registry is used in both modes. -/
theorem classifies_of_settings (hthere : files.contains (Path.ofText o.config) = .ok true)
    {config : ScanConfig}
    (hconfig : (loadScanConfig files env' (Path.ofText o.config)).outcome = .ok config) :
    Classifies now files env workbooks o config.registry := by
  -- Both modes come to load the same settings, one because it requires them, and the other because
  -- it finds that they are there.
  by_cases hnames : o.names = []
  · have hrequire : files.require (Path.ofText o.config) "scan.yaml" = .ok () := by
      rw [Files.require_eq, hthere]
    obtain ⟨s, hquiet, hsettings⟩ := exec_settings henv now
    obtain ⟨s', hload, -⟩ := hquiet.exec_perform now .settings hconfig
    rw [Action.exec_bind_ok (Action.exec_ofExcept_of_ok hrequire s), hload] at hsettings
    apply Classifies.table hnames hsettings rfl
    rw [act_eq_scan now env workbooks hnames, Action.exec_bind_ok hsettings]
  · obtain ⟨s, hquiet, hregistry⟩ := exec_namesRegistry henv now
    obtain ⟨s', hload, -⟩ := hquiet.exec_perform now .settings hconfig
    rw [Action.exec_bind_ok (Action.exec_ofExcept_of_ok hthere s), if_pos rfl,
      Action.exec_bind_ok hload, Action.exec_pure] at hregistry
    exact .of_namesRegistry hnames hregistry

/-- Settings that cannot be loaded end the run in both modes. -/
theorem exec_act_of_settings_error (hthere : files.contains (Path.ofText o.config) = .ok true)
    {e : SettingsError}
    (herror : (loadScanConfig files env' (Path.ofText o.config)).outcome = .error e) :
    ((act now env workbooks o).exec ⟨Session.start, files, ""⟩).1 = .error (.settings e) := by
  by_cases hnames : o.names = []
  · have hrequire : files.require (Path.ofText o.config) "scan.yaml" = .ok () := by
      rw [Files.require_eq, hthere]
    obtain ⟨s, hquiet, hsettings⟩ := exec_settings henv now
    obtain ⟨s', hload⟩ := hquiet.exec_perform_error now .settings herror
    rw [Action.exec_bind_ok (Action.exec_ofExcept_of_ok hrequire s), hload] at hsettings
    rw [act_eq_scan now env workbooks hnames, Action.exec_bind_error hsettings]
  · obtain ⟨s, hquiet, hregistry⟩ := exec_namesRegistry henv now
    obtain ⟨s', hload⟩ := hquiet.exec_perform_error now .settings herror
    rw [Action.exec_bind_ok (Action.exec_ofExcept_of_ok hthere s), if_pos rfl,
      Action.exec_bind_error hload] at hregistry
    rw [act_eq_report now env workbooks hnames, Action.exec_bind_error hregistry]

/-- Without settings the names of the command line are classified against the built-in registry,
whatever the environment names. -/
theorem classifies_of_no_settings (hnone : files.contains (Path.ofText o.config) = .ok false)
    (hnames : o.names ≠ []) : Classifies now files env workbooks o Registry.builtin := by
  obtain ⟨s, hquiet, hregistry⟩ := exec_namesRegistry henv now
  rw [Action.exec_bind_ok (Action.exec_ofExcept_of_ok hnone s),
    if_neg Bool.false_ne_true, Action.exec_pure] at hregistry
  exact .of_namesRegistry hnames hregistry

/-- A scan without settings fails. -/
theorem exec_act_of_no_settings (hnone : files.contains (Path.ofText o.config) = .ok false)
    (hnames : o.names = []) :
    ((act now env workbooks o).exec ⟨Session.start, files, ""⟩).1 =
      .error (.file (.missing "scan.yaml" (Path.ofText o.config).text)) := by
  have hrequire : files.require (Path.ofText o.config) "scan.yaml" =
      .error (.missing "scan.yaml" (Path.ofText o.config).text) := by
    rw [Files.require_eq, hnone]
  obtain ⟨s, -, hsettings⟩ := exec_settings henv now
  rw [Action.exec_bind_error (Action.exec_ofExcept_of_error hrequire s)] at hsettings
  rw [act_eq_scan now env workbooks hnames, Action.exec_bind_error hsettings]

/-- A run that cannot tell whether there are settings fails. -/
theorem exec_act_of_contains_error {e : FileError}
    (herror : files.contains (Path.ofText o.config) = .error e) :
    ((act now env workbooks o).exec ⟨Session.start, files, ""⟩).1 = .error (.file e) := by
  by_cases hnames : o.names = []
  · have hrequire : files.require (Path.ofText o.config) "scan.yaml" = .error e := by
      rw [Files.require_eq, herror]
    obtain ⟨s, -, hsettings⟩ := exec_settings henv now
    rw [Action.exec_bind_error (Action.exec_ofExcept_of_error hrequire s)] at hsettings
    rw [act_eq_scan now env workbooks hnames, Action.exec_bind_error hsettings]
  · obtain ⟨s, -, hregistry⟩ := exec_namesRegistry henv now
    rw [Action.exec_bind_error (Action.exec_ofExcept_of_error herror s)] at hregistry
    rw [act_eq_report now env workbooks hnames, Action.exec_bind_error hregistry]

/-- If there are settings, a run classifies its names against the registry that the environment and
the settings ask for, whether or not it scans; settings or a taxonomy file that cannot be loaded
end the run. Without settings a scan ends at once, but names of the command line are classified
against the built-in registry, and the environment is not asked. -/
theorem run_classifies (now : Moment) (workbooks : WorkbookReader) {words : List String}
    (hwords : Request.ofWords words = .ok (.run o)) :
    (files.contains (Path.ofText o.config) = .ok true →
      (∀ config, (loadScanConfig files env' (Path.ofText o.config)).outcome = .ok config →
        Classifies now files env workbooks o config.registry ∧
        ∃ fields, loadFields files (Path.ofText o.config) = .ok fields ∧
          Resolves files env' fields config.registry) ∧
      (∀ e, (loadScanConfig files env' (Path.ofText o.config)).outcome = .error e →
        (run now files env words workbooks).exit = .error (.settings e)) ∧
      ∀ name e, field? taxonomyVariable env' = some name → name ≠ "" →
        (loadTaxonomy files (Path.ofText name)).outcome = .error e →
        ∃ e', (run now files env words workbooks).exit = .error (.settings e')) ∧
    (files.contains (Path.ofText o.config) = .ok false →
      (o.names ≠ [] → Classifies now files env workbooks o Registry.builtin) ∧
      (o.names = [] → (run now files env words workbooks).exit =
        .error (.file (.missing "scan.yaml" (Path.ofText o.config).text)))) ∧
    ∀ e, files.contains (Path.ofText o.config) = .error e →
      (run now files env words workbooks).exit = .error (.file e) := by
  have hexit : (run now files env words workbooks).exit =
      ((act now env workbooks o).exec ⟨Session.start, files, ""⟩).1 := by
    rw [run, hwords]
  rw [hexit]
  refine ⟨?settled, ?unsettled, ?unknown⟩
  case settled =>
    intro hthere
    refine ⟨?_, ?_, ?_⟩
    · intro config hconfig
      exact ⟨classifies_of_settings henv hthere hconfig, exists_resolves_of_loadScanConfig hconfig⟩
    · intro e herror
      exact exec_act_of_settings_error henv hthere herror
    · intro name e named nonempty herror
      cases hconfig : (loadScanConfig files env' (Path.ofText o.config)).outcome with
      | error e' => exact ⟨e', exec_act_of_settings_error henv hthere hconfig⟩
      | ok config =>
        obtain ⟨fields, -, hresolves⟩ := exists_resolves_of_loadScanConfig hconfig
        have hloaded := hresolves.loaded_of_named named nonempty
        rw [herror] at hloaded
        cases hloaded
  case unsettled =>
    intro hnone
    exact ⟨classifies_of_no_settings henv hnone, exec_act_of_no_settings henv hnone⟩
  case unknown =>
    intro e herror
    exact exec_act_of_contains_error henv herror

end Run

/-- A taxonomy file with a name that the built-in registry does not have. -/
def taxonomyFiles : Files :=
  ⟨[(Path.ofText "tax.yaml", .file (.text "algorithms:\n  Hashing:\n    weak: [FOO]\n"))]⟩

/-- The same file beside settings that do not name it. -/
def settledFiles : Files :=
  taxonomyFiles.put (Path.ofText "s") (.file (.text "input_file: t.csv\nname_col: a"))

/-- An environment that names the taxonomy file. -/
def taxonomyEnvironment : Environment :=
  [(taxonomyVariable, "tax.yaml")]

/-- A command line with a name and the path of settings. -/
def namedWords : List String :=
  ["--config=s", "--name=foo"]

/-- What this command line asks for. -/
def namedOptions : Options :=
  { Options.usual with config := "s", names := ["foo"] }

theorem ofWords_namedWords : Request.ofWords namedWords = .ok (.run namedOptions) := by
  decide +kernel

/-- With settings the registry of the taxonomy file is used. -/
theorem run_classifies_named :
    Request.ofWords namedWords = .ok (.run namedOptions) ∧
      (Environment.load settledFiles taxonomyEnvironment
        (Path.ofText namedOptions.environmentFile)).outcome = .ok taxonomyEnvironment ∧
      ∃ r, (loadTaxonomy settledFiles (Path.ofText "tax.yaml")).outcome = .ok r ∧
        Classifies ⟨⟨2024, 1, 2⟩, 3, 4, 5, 0, none⟩ settledFiles taxonomyEnvironment .none
          namedOptions r := by
  have henv : (Environment.load settledFiles taxonomyEnvironment
      (Path.ofText namedOptions.environmentFile)).outcome = .ok taxonomyEnvironment :=
    eq_ok_of_toOption (by decide +kernel)
  have hthere : settledFiles.contains (Path.ofText namedOptions.config) = .ok true :=
    eq_ok_of_toOption (by decide +kernel)
  have hsome : (loadScanConfig settledFiles taxonomyEnvironment
      (Path.ofText namedOptions.config)).outcome.toOption.isSome = true := by decide +kernel
  obtain ⟨config, hconfig⟩ := Option.isSome_iff_exists.1 hsome
  obtain ⟨hsettings, -⟩ :=
    run_classifies henv ⟨⟨2024, 1, 2⟩, 3, 4, 5, 0, none⟩ .none ofWords_namedWords
  obtain ⟨hclassifies, fields, -, hresolves⟩ :=
    (hsettings hthere).1 config (eq_ok_of_toOption hconfig)
  exact ⟨ofWords_namedWords, henv, config.registry,
    hresolves.loaded_of_named rfl (by decide), hclassifies⟩

/-- Without settings the environment names a registry that has the name, but the run does not find
it. -/
theorem run_classifies_unnamed :
    Request.ofWords namedWords = .ok (.run namedOptions) ∧
      (Environment.load taxonomyFiles taxonomyEnvironment
        (Path.ofText namedOptions.environmentFile)).outcome = .ok taxonomyEnvironment ∧
      (∃ r e, (loadTaxonomy taxonomyFiles (Path.ofText "tax.yaml")).outcome = .ok r ∧
        r.classify "foo" = some e) ∧
      Classifies ⟨⟨2024, 1, 2⟩, 3, 4, 5, 0, none⟩ taxonomyFiles taxonomyEnvironment .none
        namedOptions Registry.builtin ∧
      (run ⟨⟨2024, 1, 2⟩, 3, 4, 5, 0, none⟩ taxonomyFiles taxonomyEnvironment namedWords).console =
        "03:04:05 [INFO] r=- src=- | Logging configured (console_level=INFO, file=None)\n" ++
        "03:04:05 [INFO] r=- src=- | 'foo': no match\n" := by
  have henv : (Environment.load taxonomyFiles taxonomyEnvironment
      (Path.ofText namedOptions.environmentFile)).outcome = .ok taxonomyEnvironment :=
    eq_ok_of_toOption (by decide +kernel)
  have hnone : taxonomyFiles.contains (Path.ofText namedOptions.config) = .ok false :=
    eq_ok_of_toOption (by decide +kernel)
  have hfoo : ((loadTaxonomy taxonomyFiles (Path.ofText "tax.yaml")).outcome.toOption.bind
      fun r => r.classify "foo").isSome = true := by decide +kernel
  obtain ⟨e, he⟩ := Option.isSome_iff_exists.1 hfoo
  obtain ⟨r, hr, hclassify⟩ := Option.bind_eq_some_iff.1 he
  refine ⟨ofWords_namedWords, henv, ⟨r, e, eq_ok_of_toOption hr, hclassify⟩,
    classifies_of_no_settings henv hnone (by decide), ?_⟩
  decide +kernel

end Command

end CryptoAudit
