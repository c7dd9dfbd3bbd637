import CryptoAudit.Proofs.Command.ExitCode
import CryptoAudit.Proofs.Command.RunDirectory
import CryptoAudit.Proofs.Log.Sink
import CryptoAudit.Proofs.Settings.Paths

/-!
# Runs and the files of other runs

A run changes no file but those that a scan writes into its own directory, whether it succeeds or
fails and wherever it fails. So two runs leave each other alone unless their directories are one.
The directory is made if it is not there, but it may be there already: a scan that starts in the
same second as an earlier one, with a table of the same name, replaces the earlier results.

## Main definitions

* `Action.Keeps`: a property of the state that an action keeps, even if it fails
* `Confined`: only some locations have been changed
* `IsArtifact`: the locations that a scan writes to
* `Start`, `Start.Begins`: a run, and the settings with which it scans
* `filesAfter`: the store after several runs

## Main results

* `keeps_scan`, `keeps_act`: a run changes its artifacts only
* `runs_isolated`: what a run leaves alone, and what later runs leave of it
* `not_runs_isolated`: a run that replaces earlier results
-/

namespace CryptoAudit.Command

open Log (Session Logged)

/-! ### What actions keep -/

namespace Action

variable {α β ε : Type} {P : State → Prop}

/-- An action keeps a property of the state, whether it ends with a result or fails. -/
def Keeps (P : State → Prop) (a : Action α) : Prop :=
  ∀ s, P s → P (a.exec s).2

theorem keeps_bind {a : Action α} {f : α → Action β} (ha : a.Keeps P)
    (hf : ∀ x, (f x).Keeps P) : (a >>= f).Keeps P := by
  intro s hs
  have hnext := ha s hs
  rcases h : a.exec s with ⟨e | x, t⟩
  · rw [h] at hnext
    rwa [exec_bind_error h]
  · rw [h] at hnext
    rw [exec_bind_ok h]
    exact hf x t hnext

theorem keeps_pure (x : α) : (pure x : Action α).Keeps P :=
  fun _ hs => hs

theorem keeps_ofExcept (failure : ε → Failure) (x : Except ε α) : (ofExcept failure x).Keeps P := by
  cases x with
  | error e => exact fun _ hs => hs
  | ok a => exact fun _ hs => hs

theorem keeps_files : files.Keeps P :=
  fun _ hs => hs

theorem exec_ofExcept (failure : ε → Failure) (x : Except ε α) (s : State) :
    ((ofExcept failure x).exec s).2 = s := by
  cases x <;> rfl

/-- The store is changed even if the change fails. -/
theorem exec_change (failure : ε → Failure) (f : Files → Files × Except ε Unit) (s : State) :
    ((change failure f).exec s).2 = { s with files := (f s.files).1 } :=
  exec_ofExcept failure (f s.files).2 { s with files := (f s.files).1 }

theorem exec_configure (now : Moment) (level : Log.Level) (request : Option Session.SinkRequest)
    (s : State) : ((configure now level request).exec s).2 =
      ⟨(s.session.configure now s.files level request).1.session,
        (s.session.configure now s.files level request).1.files,
        s.console ++ (s.session.configure now s.files level request).1.console⟩ :=
  exec_ofExcept .file _ _

end Action

/-! ### Changes in some places only -/

/-- A log file and the files that are set aside for it lie at some locations. -/
def SinkWithin (changes : Path → Prop) (sink : Log.Sink) : Prop :=
  changes sink.location ∧
    ∀ i, 1 ≤ i → i ≤ sink.backups.toNat → changes (Files.backup sink.location i)

/-- Only files at some locations have been changed, and only they can be changed by logging. -/
structure Confined (changes : Path → Prop) (files : Files) (s : State) : Prop where
  sink : ∀ sink, s.session.sink = some sink → SinkWithin changes sink
  files : ∀ q, ¬changes q → s.files.fileAt? q = files.fileAt? q

section Session

variable {changes : Path → Prop} {s : Session}
  (hsink : ∀ sink, s.sink = some sink → SinkWithin changes sink) {q : Path} (hq : ¬changes q)

include hsink hq

theorem fileAt?_deliver (now : Moment) (files : Files) (r : Log.Record) :
    (s.deliver now files r).1.fileAt? q = files.fileAt? q := by
  rw [Session.deliver]
  split
  · dsimp only
    rw [Session.sinkFiles]
    split
    · rfl
    · next sink hsome =>
      obtain ⟨hlog, hbackups⟩ := hsink sink hsome
      split
      · apply Log.Sink.fileAt?_write
        · rintro rfl
          exact hq hlog
        · rintro i hlow hhigh rfl
          exact hq (hbackups i hlow hhigh)
      · rfl
  · rfl

theorem fileAt?_deliverAll (now : Moment) (files : Files) (records : List Log.Record) :
    (s.deliverAll now files records).1.fileAt? q = files.fileAt? q := by
  induction records generalizing files with
  | nil => rfl
  | cons r records ih =>
    rw [Session.deliverAll]
    exact (ih _).trans (fileAt?_deliver hsink hq now files r)

end Session

/-- A session that is set up changes at most its log file and the files set aside for it. -/
theorem confined_configure {changes : Path → Prop} {request : Option Session.SinkRequest}
    (hrequest : ∀ r, request = some r →
      SinkWithin changes ⟨Files.destination r.path, r.level, r.maxBytes, r.backups⟩)
    (s : Session) (now : Moment) (files : Files) (level : Log.Level) (console : String) :
    Confined changes files
      ⟨(s.configure now files level request).1.session,
        (s.configure now files level request).1.files, console⟩ := by
  unfold Session.configure
  -- A log file that cannot be opened is not kept, but its directory may have been made.
  cases request with
  | none =>
    have hsink : ∀ sink, (none : Option Log.Sink) = some sink → SinkWithin changes sink := by
      rintro sink ⟨⟩
    exact ⟨hsink, fun q hq => fileAt?_deliver hsink hq now files _⟩
  | some request =>
    have hwithin := hrequest request rfl
    have hopened (q : Path) (hq : ¬changes q) :
        (Session.openSink files request).1.fileAt? q = files.fileAt? q := by
      apply Log.fileAt?_openSink
      rintro rfl
      exact hq hwithin.1
    cases hopen : Session.openSink files request with
    | mk opened outcome =>
      rw [hopen] at hopened
      dsimp only
      rw [hopen]
      cases outcome with
      | error e => exact ⟨nofun, hopened⟩
      | ok l =>
        obtain ⟨rfl, -⟩ := Log.openSink_eq_ok hopen
        have hsink : ∀ sink, some (⟨Files.destination request.path, request.level,
            request.maxBytes, request.backups⟩ : Log.Sink) = some sink →
              SinkWithin changes sink := by
          rintro sink ⟨⟩
          exact hwithin
        refine ⟨hsink, fun q hq => ?_⟩
        exact (fileAt?_deliver hsink hq now opened _).trans (hopened q hq)

namespace Action

variable {α β ε : Type} {changes : Path → Prop} {files : Files}

theorem keeps_deliver (now : Moment) (records : List Log.Record) :
    (deliver now records).Keeps (Confined changes files) := by
  rintro s ⟨hsink, hfiles⟩
  refine ⟨hsink, fun q hq => ?_⟩
  exact (fileAt?_deliverAll hsink hq now s.files records).trans (hfiles q hq)

theorem keeps_tell (now : Moment) (level : Log.Level) (message : String) :
    (tell now level message).Keeps (Confined changes files) :=
  keeps_deliver now _

theorem keeps_perform (now : Moment) (failure : ε → Failure) (x : Logged ε α) :
    (perform now failure x).Keeps (Confined changes files) :=
  keeps_bind (keeps_deliver now x.records) fun _ => keeps_ofExcept failure x.outcome

theorem keeps_setContext (f : Log.Context → Log.Context) :
    (setContext f).Keeps (Confined changes files) :=
  fun _ hs => ⟨hs.sink, hs.files⟩

theorem keeps_change {failure : ε → Failure} {f : Files → Files × Except ε Unit}
    (h : ∀ files q, ¬changes q → (f files).1.fileAt? q = files.fileAt? q) :
    (change failure f).Keeps (Confined changes files) := by
  intro s hs
  rw [exec_change]
  exact ⟨hs.sink, fun q hq => (h s.files q hq).trans (hs.files q hq)⟩

theorem keeps_configure {request : Option Session.SinkRequest}
    (h : ∀ r, request = some r →
      SinkWithin changes ⟨Files.destination r.path, r.level, r.maxBytes, r.backups⟩)
    (now : Moment) (level : Log.Level) :
    (configure now level request).Keeps (Confined changes files) := by
  intro s hs
  rw [exec_configure]
  obtain ⟨hsink, hfiles⟩ := confined_configure h s.session now s.files level ""
  exact ⟨hsink, fun q hq => (hfiles q hq).trans (hs.files q hq)⟩

end Action

/-! ### Artifacts -/

/-- The names of the files that a scan writes. -/
def fileNames : List String :=
  ["run.log", "config.resolved.json", "findings.json", "summary.json"]

/-- The names of the files that a scan writes, with those of the logs that are set aside. -/
def artifactNames : List String :=
  fileNames ++ (List.range' 1 Session.usualBackups.toNat).map fun i : Nat =>
    "run.log" ++ "." ++ decimal i

/-- A scan with the given directory writes to the location. -/
def IsArtifact (directory l : Path) : Prop :=
  ∃ name ∈ artifactNames, l = Files.entry (Files.destination directory) name

theorem destination_of_mem_fileNames (directory : Path) {name : String} (h : name ∈ fileNames) :
    Files.destination (directory.child name) =
      Files.entry (Files.destination directory) name := by
  have hname : ∀ name ∈ fileNames, Path.ofText name = ⟨.relative, [name]⟩ ∧ name ≠ ".." := by
    decide +kernel
  exact Files.destination_child (hname name h).1 (hname name h).2

theorem isArtifact_of_mem_fileNames (directory : Path) {name : String} (h : name ∈ fileNames) :
    IsArtifact directory (Files.destination (directory.child name)) :=
  ⟨name, List.mem_append_left _ h, destination_of_mem_fileNames directory h⟩

theorem sinkWithin_sinkRequest (o : Options) (directory : Path) :
    SinkWithin (IsArtifact directory) ⟨Files.destination (logFile directory), o.fileLevel,
      Session.usualMaxBytes, Session.usualBackups⟩ := by
  have hlog : "run.log" ∈ fileNames := by decide
  refine ⟨isArtifact_of_mem_fileNames directory hlog, ?_⟩
  intro i hlow hhigh
  refine ⟨"run.log" ++ "." ++ decimal i, List.mem_append_right _ ?_, ?_⟩
  · exact List.mem_map.2 ⟨i, List.mem_range'_1.2 ⟨hlow, Nat.lt_one_add_iff.2 hhigh⟩, rfl⟩
  · rw [logFile, destination_of_mem_fileNames directory hlog]
    simp [Files.backup, Files.entry, Path.name]

/-! ### Scans -/

section Scan

/-- Writing JSON changes at most the file at the end of the path. -/
theorem fileAt?_writeJson {p q : Path} (h : Files.destination p ≠ q) (files : Files) (v : Value) :
    (files.writeJson p v).1.fileAt? q = files.fileAt? q := by
  have hmade := Files.fileAt?_makeDirs files p.parent q
  rw [Files.writeJson]
  split
  · next made e hmake =>
    rwa [hmake] at hmade
  · next made hmake =>
    rw [hmake] at hmade
    dsimp only
    split
    · exact hmade
    · next hwrite _ => rw [Files.fileAt?_write hwrite h, hmade]
    · next hwrite _ => rw [Files.fileAt?_write hwrite h, hmade]

variable {directory : Path} {base : Files}

theorem keeps_writeJson {failure : ArtifactError → Failure} {name : String}
    (hname : name ∈ fileNames) (v : Value) :
    (Action.change failure (·.writeJson (directory.child name) v)).Keeps
      (Confined (IsArtifact directory) base) := by
  apply Action.keeps_change
  intro files q hq
  apply fileAt?_writeJson
  rintro rfl
  exact hq (isArtifact_of_mem_fileNames directory hname)

theorem keeps_begin (now : Moment) (o : Options) (config : ScanConfig) :
    (begin now o config directory).Keeps (Confined (IsArtifact directory) base) := by
  unfold begin
  refine Action.keeps_bind ?_ fun _ => ?_
  · exact Action.keeps_change fun files q _ => Files.fileAt?_makeDirs files directory q
  refine Action.keeps_bind ?_ fun _ => ?_
  · apply Action.keeps_configure
    rintro _ ⟨⟩
    exact sinkWithin_sinkRequest o directory
  refine Action.keeps_bind (Action.keeps_setContext _) fun _ => ?_
  refine Action.keeps_bind (Action.keeps_tell now _ _) fun _ => ?_
  refine Action.keeps_bind (Action.keeps_tell now _ _) fun _ => ?_
  refine Action.keeps_bind (fun _ hs => hs) fun s => ?_
  exact keeps_writeJson (by decide) _

theorem keeps_scanTable (now : Moment) (workbooks : WorkbookReader) (config : ScanConfig) :
    (scanTable now workbooks config).Keeps (Confined (IsArtifact directory) base) := by
  unfold scanTable
  refine Action.keeps_bind (Action.keeps_tell now _ _) fun _ => ?_
  refine Action.keeps_bind Action.keeps_files fun _ => ?_
  refine Action.keeps_bind (Action.keeps_ofExcept _ _) fun table => ?_
  refine Action.keeps_bind (Action.keeps_tell now _ _) fun _ => ?_
  refine Action.keeps_bind (Action.keeps_perform now _ _) fun columns => ?_
  refine Action.keeps_bind (Action.keeps_perform now _ _) fun scanned => ?_
  exact Action.keeps_pure _

theorem keeps_saveFindings (now : Moment) (columns : ScanColumns) (found : Table) :
    (saveFindings now directory columns found).Keeps (Confined (IsArtifact directory) base) := by
  unfold saveFindings
  refine Action.keeps_bind (Action.keeps_ofExcept _ _) fun records => ?_
  refine Action.keeps_bind (keeps_writeJson (by decide) _) fun _ => ?_
  exact Action.keeps_deliver now _

theorem keeps_saveSummary (now : Moment) (scanned : Table) (count : Nat) :
    (saveSummary now directory scanned count).Keeps (Confined (IsArtifact directory) base) := by
  unfold saveSummary
  refine Action.keeps_bind (Action.keeps_ofExcept _ _) fun summary => ?_
  refine Action.keeps_bind (keeps_writeJson (by decide) _) fun _ => ?_
  exact Action.keeps_perform now _ _

/-- A scan changes its artifacts only. -/
theorem keeps_scan (now : Moment) (workbooks : WorkbookReader) (o : Options)
    (config : ScanConfig) :
    (scan now workbooks o config).Keeps
      (Confined (IsArtifact (runDirectory now config)) base) := by
  unfold scan
  refine Action.keeps_bind (keeps_begin now o config) fun _ => ?_
  refine Action.keeps_bind (keeps_scanTable now workbooks config) fun ⟨columns, scanned⟩ => ?_
  refine Action.keeps_bind (Action.keeps_ofExcept _ _) fun found => ?_
  refine Action.keeps_bind (keeps_saveFindings now columns found) fun _ => ?_
  refine Action.keeps_bind (keeps_saveSummary now scanned _) fun _ => ?_
  refine Action.keeps_bind (Action.keeps_tell now _ _) fun _ => ?_
  refine Action.keeps_bind (Action.keeps_setContext _) fun _ => ?_
  refine Action.keeps_bind (Action.keeps_ofExcept _ _) fun weak => ?_
  split
  · exact Action.keeps_bind (Action.keeps_tell now _ _) fun _ => Action.keeps_pure _
  · exact Action.keeps_pure _

end Scan

/-! ### Runs -/

section Run

variable {changes : Path → Prop} {base : Files}

theorem confined_start (changes : Path → Prop) (files : Files) :
    Confined changes files ⟨Session.start, files, ""⟩ :=
  ⟨by rintro sink ⟨⟩, fun _ _ => rfl⟩

theorem keeps_settings (now : Moment) (env : Environment) (o : Options) :
    (settings now env o).Keeps (Confined changes base) := by
  unfold settings
  refine Action.keeps_bind Action.keeps_files fun _ => ?_
  refine Action.keeps_bind (Action.keeps_perform now _ _) fun env => ?_
  refine Action.keeps_bind Action.keeps_files fun _ => ?_
  refine Action.keeps_bind (Action.keeps_ofExcept _ _) fun _ => ?_
  exact Action.keeps_perform now _ _

theorem keeps_classifyNames (now : Moment) (env : Environment) (o : Options) :
    (classifyNames now env o).Keeps (Confined changes base) := by
  have hregistry (path : Path) : (registryAt now env path).Keeps (Confined changes base) := by
    unfold registryAt
    refine Action.keeps_bind Action.keeps_files fun _ => ?_
    refine Action.keeps_bind (Action.keeps_ofExcept _ _) fun isThere => ?_
    cases isThere with
    | true => exact Action.keeps_bind (Action.keeps_perform now _ _) fun _ => Action.keeps_pure _
    | false => exact Action.keeps_pure _
  unfold classifyNames
  refine Action.keeps_bind (Action.keeps_configure (by rintro r ⟨⟩) now _) fun _ => ?_
  refine Action.keeps_bind (hregistry _) fun r => ?_
  induction o.names with
  | nil => exact Action.keeps_pure _
  | cons name names ih =>
    exact Action.keeps_bind (Action.keeps_tell now _ _) fun _ => ih

theorem keeps_act (now : Moment) (env : Environment) (workbooks : WorkbookReader) {o : Options}
    (hnames : o.names ≠ []) : (act now env workbooks o).Keeps (Confined changes base) := by
  have hsome : o.names.isEmpty = false := by simpa using hnames
  unfold act
  simp only [hsome]
  refine Action.keeps_bind Action.keeps_files fun _ => ?_
  refine Action.keeps_bind (Action.keeps_perform now _ _) fun env => ?_
  exact Action.keeps_bind (keeps_classifyNames now env o) fun _ => Action.keeps_pure _

end Run

/-- What a run is started with, but for the file store. -/
structure Start where
  now : Moment
  env : Environment
  words : List String
  workbooks : WorkbookReader

namespace Start

variable {r t : Start} {files : Files} {config : ScanConfig} {q : Path}

/-- The store after the run. -/
def filesAfter (r : Start) (files : Files) : Files :=
  (run r.now files r.env r.words r.workbooks).files

/-- The run loads settings to scan with. -/
def Begins (r : Start) (files : Files) (config : ScanConfig) : Prop :=
  ∃ o s, Request.ofWords r.words = .ok (.run o) ∧ o.names = [] ∧
    (settings r.now r.env o).exec ⟨Session.start, files, ""⟩ = (.ok config, s)

theorem begins_of_toOption {o : Options} (hwords : Request.ofWords r.words = .ok (.run o))
    (hnames : o.names = [])
    (hconfig : ((settings r.now r.env o).exec ⟨Session.start, files, ""⟩).1.toOption =
      some config) : r.Begins files config :=
  ⟨o, _, hwords, hnames, Prod.ext (eq_ok_of_toOption hconfig) rfl⟩

theorem Begins.hasProperPaths (h : r.Begins files config) : config.HasProperPaths := by
  obtain ⟨o, s, -, -, h⟩ := h
  obtain ⟨_, _, -, h⟩ := Action.exec_bind_eq_ok_iff.1 h
  obtain ⟨_, _, -, h⟩ := Action.exec_bind_eq_ok_iff.1 h
  obtain ⟨_, _, -, h⟩ := Action.exec_bind_eq_ok_iff.1 h
  obtain ⟨_, _, -, h⟩ := Action.exec_bind_eq_ok_iff.1 h
  exact ScanConfig.hasProperPaths_of_load (Action.outcome_of_exec_perform h)

/-- A run changes the artifacts of its scan only, and nothing if it does not scan. -/
theorem fileAt?_filesAfter
    (h : ∀ config, r.Begins files config → ¬IsArtifact (runDirectory r.now config) q) :
    (r.filesAfter files).fileAt? q = files.fileAt? q := by
  rw [filesAfter, run]
  cases hwords : Request.ofWords r.words with
  | error e => rfl
  | ok request =>
    cases request with
    | help => rfl
    | run o =>
      change ((act r.now r.env r.workbooks o).exec ⟨Session.start, files, ""⟩).2.files.fileAt? q = _
      by_cases hnames : o.names = []
      · rw [act_eq_scan r.now r.env r.workbooks hnames]
        rcases hexec : (settings r.now r.env o).exec ⟨Session.start, files, ""⟩ with
          ⟨e | config, s⟩
        · -- Without settings there is no directory, and so nowhere to write to.
          have hnone := keeps_settings r.now r.env o _ (confined_start (fun _ => False) files)
          rw [hexec] at hnone
          rw [Action.exec_bind_error hexec]
          exact hnone.files q not_false
        · -- The settings name the directory in which the scan may write from here on.
          have hsettings := keeps_settings r.now r.env o _
            (confined_start (IsArtifact (runDirectory r.now config)) files)
          rw [hexec] at hsettings
          rw [Action.exec_bind_ok hexec]
          exact (keeps_scan r.now r.workbooks o config s hsettings).files q
            (h config ⟨o, s, hwords, hnames, hexec⟩)
      · have hnone :=
          keeps_act r.now r.env r.workbooks hnames _ (confined_start (fun _ => False) files)
        exact hnone.files q not_false

/-- Scans that can be told apart by their second or their table share no artifact. -/
theorem not_isArtifact_of_not_sameRun {files' : Files} {config' : ScanConfig}
    (hbegins : r.Begins files config) (hbegins' : t.Begins files' config')
    (hplain : r.now.IsPlain) (hplain' : t.now.IsPlain)
    (hother : ¬SameRun r.now t.now config config')
    (h : IsArtifact (runDirectory r.now config) q) :
    ¬IsArtifact (runDirectory t.now config') q := by
  rintro ⟨name', -, hname'⟩
  obtain ⟨name, -, rfl⟩ := h
  exact hother (sameRun_of_destination_eq hplain hplain' hbegins.hasProperPaths.1
    hbegins'.hasProperPaths.1 (Files.entry_inj hname').1)

end Start

/-- The store after runs one after the other. -/
def filesAfter (files : Files) : List Start → Files
  | [] => files
  | r :: later => filesAfter (r.filesAfter files) later

theorem fileAt?_filesAfter {q : Path} {later : List Start}
    (h : ∀ t ∈ later, ∀ files config, t.Begins files config →
      ¬IsArtifact (runDirectory t.now config) q) (files : Files) :
    (filesAfter files later).fileAt? q = files.fileAt? q := by
  induction later generalizing files with
  | nil => rfl
  | cons t later ih =>
    obtain ⟨ht, hlater⟩ := List.forall_mem_cons.1 h
    rw [filesAfter, ih hlater, Start.fileAt?_filesAfter (ht files)]

/-- A run changes no file but the artifacts of its own scan, and makes no other. So if its directory
holds none of them yet, all files stay as they are. And later runs leave the artifacts of a run as
they are, but for scans that start in the same second with a table of the same name. -/
theorem runs_isolated (files : Files) (r : Start) :
    (∀ q, (∀ config, r.Begins files config → ¬IsArtifact (runDirectory r.now config) q) →
      (r.filesAfter files).fileAt? q = files.fileAt? q) ∧
    ((∀ config q, r.Begins files config → IsArtifact (runDirectory r.now config) q →
        files.fileAt? q = none) →
      ∀ q c, files.fileAt? q = some c → (r.filesAfter files).fileAt? q = some c) ∧
    ∀ config, r.Begins files config → r.now.IsPlain → ∀ later : List Start,
      (∀ t ∈ later, t.now.IsPlain ∧ ∀ files' config', t.Begins files' config' →
        ¬SameRun r.now t.now config config') →
      ∀ q, IsArtifact (runDirectory r.now config) q →
        (filesAfter (r.filesAfter files) later).fileAt? q = (r.filesAfter files).fileAt? q := by
  refine ⟨fun q h => Start.fileAt?_filesAfter h, ?fresh, ?later⟩
  case fresh =>
    intro hfresh q c hc
    rw [Start.fileAt?_filesAfter, hc]
    intro config hbegins hartifact
    rw [hfresh config q hbegins hartifact] at hc
    cases hc
  case later =>
    intro config hbegins hplain later hlater q hartifact
    apply fileAt?_filesAfter
    intro t ht files' config' hbegins'
    obtain ⟨hplain', hother⟩ := hlater t ht
    exact Start.not_isArtifact_of_not_sameRun hbegins hbegins' hplain hplain'
      (hother files' config' hbegins') hartifact

/-- Settings of a scan in which weak findings are failures, and a table with a weak one. -/
def alarmingFiles : Files :=
  ⟨[(Path.ofText "s",
      .file (.text "input_file: t.csv\nname_col: a\ndata_dir: .\nfail_on_weak: yes")),
    (Path.ofText "t.csv", .file (.text "a\nmd5"))]⟩

/-- A scan of a table with a weak name. -/
def firstScan : Start :=
  ⟨⟨⟨2024, 1, 2⟩, 3, 4, 5, 0, none⟩, [], quietWords, .none⟩

/-- The same scan, a second later. -/
def laterScan : Start :=
  ⟨⟨⟨2024, 1, 2⟩, 3, 4, 6, 0, none⟩, [], quietWords, .none⟩

/-- The findings of a scan are still there after the next one. -/
theorem runs_isolated_second_later :
    ∃ config, firstScan.Begins alarmingFiles config ∧ firstScan.now.IsPlain ∧
      (∀ t ∈ [laterScan], t.now.IsPlain ∧ ∀ files' config', t.Begins files' config' →
        ¬SameRun firstScan.now t.now config config') ∧
      IsArtifact (runDirectory firstScan.now config)
        (Path.ofText "outputs/20240102_030405_t/findings.json") ∧
      (filesAfter (firstScan.filesAfter alarmingFiles) [laterScan]).fileAt?
          (Path.ofText "outputs/20240102_030405_t/findings.json") =
        (firstScan.filesAfter alarmingFiles).fileAt?
          (Path.ofText "outputs/20240102_030405_t/findings.json") := by
  have hplain : firstScan.now.IsPlain := by constructor <;> decide
  have hplain' : laterScan.now.IsPlain := by constructor <;> decide
  have hwords : Request.ofWords firstScan.words = .ok (.run quietOptions) := by decide +kernel
  have hdirectory : (((settings firstScan.now firstScan.env quietOptions).exec
      ⟨Session.start, alarmingFiles, ""⟩).1.toOption.map fun config =>
        Files.destination (runDirectory firstScan.now config)) =
      some (Path.ofText "outputs/20240102_030405_t") := by decide +kernel
  obtain ⟨config, hconfig, hdestination⟩ := Option.map_eq_some_iff.1 hdirectory
  have hbegins := Start.begins_of_toOption hwords rfl hconfig
  have hartifact : IsArtifact (runDirectory firstScan.now config)
      (Path.ofText "outputs/20240102_030405_t/findings.json") := by
    rw [IsArtifact, hdestination]
    exact ⟨"findings.json", by decide, by decide +kernel⟩
  have hlater : ∀ t ∈ [laterScan], t.now.IsPlain ∧ ∀ files' config', t.Begins files' config' →
      ¬SameRun firstScan.now t.now config config' := by
    rw [List.forall_mem_singleton]
    exact ⟨hplain', fun _ _ _ hsame => absurd hsame.second (by decide)⟩
  obtain ⟨-, -, hisolated⟩ := runs_isolated alarmingFiles firstScan
  exact ⟨config, hbegins, hplain, hlater, hartifact,
    hisolated config hbegins hplain [laterScan] hlater _ hartifact⟩

/-- A directory with the findings of an earlier scan. -/
def scannedFiles : Files :=
  alarmingFiles.put (Path.ofText "outputs/20240102_030405_t/findings.json") (.file (.text "[]"))

/-- A scan that starts in the same second with a table of the same name replaces the findings. -/
theorem not_runs_isolated :
    (run firstScan.now scannedFiles firstScan.env firstScan.words).exit = .ok 1 ∧
      scannedFiles.fileAt? (Path.ofText "outputs/20240102_030405_t/findings.json") =
        some (.text "[]") ∧
      (firstScan.filesAfter scannedFiles).fileAt?
        (Path.ofText "outputs/20240102_030405_t/findings.json") ≠ some (.text "[]") := by
  -- Both facts about the run are evaluated together, so that it runs once.
  have hrun :
      (run firstScan.now scannedFiles firstScan.env firstScan.words).exit.toOption = some 1 ∧
        (firstScan.filesAfter scannedFiles).fileAt?
          (Path.ofText "outputs/20240102_030405_t/findings.json") ≠ some (.text "[]") := by
    decide +kernel
  exact ⟨eq_ok_of_toOption hrun.1, by decide +kernel, hrun.2⟩

end CryptoAudit.Command
