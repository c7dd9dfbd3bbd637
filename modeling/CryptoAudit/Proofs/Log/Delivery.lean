import CryptoAudit.Log.Call
import CryptoAudit.Proofs.Log.Sink

/-!
# What a log session delivers

A session that has been set up several times behaves as if it had only been set up the last time:
every record goes to the console once and to the last log file once, if its level asks for that, and
nowhere else. Its line names the run and the source that were set last, whatever else was called in
between.

A history lists the calls of a session with the latest first. What is in force after it is read off
the history alone; the session is shown to hold just that.

## Main definitions

* `History`: the calls so far
* `History.setup?`, `History.run?`, `History.source?`: what is in force after a history
* `History.consoleLines`, `History.fileLines`: the lines of one record on the console and in a file
* `History.all`: the lines of the records of all calls
* `History.result`: the session after its calls, with what it has written
* `History.isRegular`: whether no call fails and no log file is set aside

## Main results

* `History.call_eq_ok`: what one call adds
* `History.result_of_isRegular`: what a whole session has written
* `History.delivered_once`: every record is delivered once, with what is in force
-/

namespace CryptoAudit

/-! ### Tags -/

namespace Digest

theorem size_compress (h : Array UInt32) (block : List UInt8) (count : Nat) (isLast : Bool) :
    (compress h block count isLast).size = h.size := by
  simp [compress]

theorem size_absorb (h : Array UInt32) (count fuel : Nat) (bytes : List UInt8) :
    (absorb h count fuel bytes).size = h.size := by
  induction fuel generalizing h count bytes with
  | zero => rfl
  | succ fuel ih =>
    rw [absorb]
    split
    · exact size_compress h bytes _ true
    · rw [ih, size_compress]

/-- Eight words are enough for a digest of at most 32 bytes. -/
theorem length_blake2s {size : Nat} (h : size ≤ 32) (bytes : List UInt8) :
    (blake2s size bytes).length = size := by
  have hwords (words : List UInt32) : (words.flatMap bytesOf).length = 4 * words.length := by
    induction words with
    | nil => rfl
    | cons x words ih => simp [bytesOf, ih]; omega
  rw [blake2s, List.length_take, hwords, Array.length_toList, size_absorb,
    Array.size_setIfInBounds]
  exact Nat.min_eq_left h

theorem length_tagDigits (id : String) : (tagDigits id).length = 16 := by
  have hdigits (bytes : List UInt8) : (bytes.flatMap hexByte).length = 2 * bytes.length := by
    induction bytes with
    | nil => rfl
    | cons b bytes ih => simp [hexByte, ih]; omega
  rw [tagDigits, hdigits, length_blake2s (by decide)]

/-- A tag has eight digits. -/
theorem length_runTag (id : String) : (runTag id tagLength).length = 8 := by
  have hlength := length_tagDigits id
  simp [runTag, tagLength, hlength]

end Digest

namespace Log

/-! ### What is in force after a history -/

/-- The calls of a session so far, each with its time, the latest first. -/
abbrev History := List (Moment × Call)

/-- The record that a call logs, if it does. -/
def Call.record? : Call → Option Record
  | .configure level request => some (Session.configured level (request.map (·.path)))
  | .log r => some r
  | .setContext _ _ => none
  | .clearSource => none

/-- How a session was set up: the level of the console, and the log file if there is one. -/
structure Setup where
  level : Level
  request : Option Session.SinkRequest

namespace History

/-- The last set-up of a session. -/
def setup? : History → Option Setup
  | [] => none
  | (_, .configure level request) :: _ => some ⟨level, request⟩
  | _ :: earlier => setup? earlier

/-- The run that was set last. -/
def run? : History → Option String
  | [] => none
  | (_, .setContext (some id) _) :: _ => some id
  | _ :: earlier => run? earlier

/-- The source that was set last, unless it was cleared since. -/
def source? : History → Option Path
  | [] => none
  | (_, .clearSource) :: _ => none
  | (_, .setContext _ (some path)) :: _ => some path
  | _ :: earlier => source? earlier

/-- The tag of the run that was set last, or a dash. -/
def runText (h : History) : String :=
  match run? h with
  | none => "-"
  | some id => Digest.runTag id Digest.tagLength

/-- The run that was set last, or a dash. -/
def idText (h : History) : String :=
  match run? h with
  | none => "-"
  | some id => if id = "" then "-" else id

/-- The file name of the source that was set last, or a dash. -/
def sourceText (h : History) : String :=
  match source? h with
  | none => "-"
  | some path => if path.name = "" then "-" else path.name

/-! ### The lines of a history -/

/-- What a line says about the run and the source, and its message. -/
def tail (h : History) (message : String) : String :=
  "r=" ++ runText h ++ " src=" ++ sourceText h ++ " | " ++ message ++ "\n"

/-- A record as a line on the console. -/
def consoleLine (h : History) (now : Moment) (r : Record) : String :=
  now.clock ++ " [" ++ r.level.name ++ "] " ++ tail h r.message

/-- A record as a line of a log file. -/
def fileLine (h : History) (now : Moment) (r : Record) : String :=
  now.date.text ++ " " ++ now.clock ++ " [" ++ r.level.name ++ "] " ++
    Session.shownLogger r.logger ++ " | " ++ tail h r.message

/-- Whether a record passes its logger once the session has been set up. -/
def passes (r : Record) : Bool :=
  Session.isAtLeast r.level (if Session.isEnvironmentLogger r.logger then .warning else .debug)

/-- The lines that a record puts on the console after a history. Before the session has been set up
these are bare messages of a warning or worse. -/
def consoleLines (h : History) (now : Moment) (r : Record) : List String :=
  match setup? h with
  | none => if Session.isAtLeast r.level .warning then [r.message ++ "\n"] else []
  | some setup =>
    if passes r && Session.isAtLeast r.level setup.level then [consoleLine h now r] else []

/-- The lines that a record adds to the file at a location after a history. -/
def fileLines (l : Path) (h : History) (now : Moment) (r : Record) : List String :=
  match (setup? h).bind (·.request) with
  | none => []
  | some request =>
    if passes r && Session.isAtLeast r.level request.level &&
        Files.destination request.path == l then [fileLine h now r]
    else []

/-- The lines of the record of the latest call, where `lines` gives those of one record. The record
is logged after the call has taken effect. -/
def latest (lines : History → Moment → Record → List String) : History → List String
  | [] => []
  | (now, c) :: earlier =>
    match c.record? with
    | none => []
    | some r => lines ((now, c) :: earlier) now r

/-- The lines of the records of all calls, the earliest first. -/
def all (lines : History → Moment → Record → List String) : History → List String
  | [] => []
  | call :: earlier => all lines earlier ++ latest lines (call :: earlier)

/-! ### The session after a history -/

/-- A log file as it is kept once it has been opened. -/
def sinkOf (request : Session.SinkRequest) : Sink :=
  ⟨Files.destination request.path, request.level, request.maxBytes, request.backups⟩

/-- The context after a history. -/
def context (h : History) : Context :=
  ⟨runText h, (run? h).getD "-", ((source? h).map Path.name).getD "-"⟩

/-- The session after a history. -/
def session (h : History) : Session :=
  ⟨context h, (setup? h).map (·.level), ((setup? h).bind (·.request)).map sinkOf,
    (setup? h).isSome⟩

theorem orUnknown_runText (h : History) : orUnknown (runText h) = runText h := by
  -- A tag is never taken for a missing one, because it has eight digits.
  rw [orUnknown, if_neg]
  intro hempty
  unfold runText at hempty
  split at hempty
  · exact absurd hempty (by decide)
  · next id _ =>
    have hlength := Digest.length_runTag id
    simp [hempty] at hlength

/-- The context after a history, as it is shown. -/
theorem shown_context (h : History) : (context h).shown = ⟨runText h, idText h, sourceText h⟩ := by
  have hid : orUnknown ((run? h).getD "-") = idText h := by
    unfold idText
    cases run? h <;> rfl
  have hsource : orUnknown (((source? h).map Path.name).getD "-") = sourceText h := by
    unfold sourceText
    cases source? h <;> rfl
  simp [Context.shown, context, orUnknown_runText, hid, hsource]

variable (h : History) (now : Moment) (r : Record)

theorem session_tail : (session h).tail r = tail h r.message := by
  simp [Session.tail, session, shown_context, tail]

theorem session_consoleLine : (session h).consoleLine now r = consoleLine h now r := by
  simp [Session.consoleLine, session_tail, consoleLine]

theorem session_fileLine : (session h).fileLine now r = fileLine h now r := by
  simp [Session.fileLine, session_tail, fileLine]

variable {h} in
/-- Once a session has been set up, a record passes its logger unless that is one of the quiet
ones. -/
theorem isAtLeast_threshold {setup : Setup} (hsetup : setup? h = some setup) :
    Session.isAtLeast r.level ((session h).threshold r.logger) = passes r := by
  simp [Session.threshold, session, hsetup, passes]

theorem deliver_console (files : Files) :
    ((session h).deliver now files r).2 = String.join (consoleLines h now r) := by
  cases hsetup : setup? h with
  | none =>
    have hconsole : (session h).console = none := by simp [session, hsetup]
    have hthreshold : (session h).threshold r.logger = .warning := by
      simp [Session.threshold, session, hsetup]
    rw [Session.deliver, hthreshold, consoleLines, hsetup]
    by_cases hleast : Session.isAtLeast r.level .warning <;>
      simp [hleast, Session.consoleText, hconsole]
  | some setup =>
    have hconsole : (session h).console = some setup.level := by simp [session, hsetup]
    rw [Session.deliver, isAtLeast_threshold r hsetup, consoleLines, hsetup]
    by_cases hpasses : passes r <;> by_cases hleast : Session.isAtLeast r.level setup.level <;>
      simp [hpasses, hleast, Session.consoleText, hconsole, session_consoleLine]

end History

/-! ### Room in the log file -/

/-- Whether a record leaves the log file where it is. -/
def Session.hasRoom (s : Session) (now : Moment) (files : Files) (r : Record) : Bool :=
  match s.sink with
  | none => true
  | some sink =>
    !(isAtLeast r.level (s.threshold r.logger) && isAtLeast r.level sink.level &&
      (sink.isFull files (s.fileLine now r) && decide (0 < sink.backups)))

/-- Only the size of the log file matters for whether it has room. -/
theorem Session.hasRoom_congr {s : Session} {files files' : Files}
    (h : ∀ l, files'.bytesAt l = files.bytesAt l) (now : Moment) (r : Record) :
    s.hasRoom now files' r = s.hasRoom now files r := by
  have hfull (sink : Sink) (line : String) : sink.isFull files' line = sink.isFull files line := by
    rw [Sink.isFull, Sink.isFull, Content.size_eq, Content.size_eq]
    exact congrArg (fun bytes : List UInt8 => _ && decide (_ ≤ Int.ofNat (bytes.length + _)))
      (h sink.location)
  unfold hasRoom
  simp only [hfull]

namespace History

variable {h : History}

theorem bytesAt_deliver {now : Moment} {files : Files} {r : Record}
    (hfixed : ∀ sink, (session h).sink = some sink → Files.isFixed sink.location = false)
    (hroom : (session h).hasRoom now files r = true) (l : Path) :
    ((session h).deliver now files r).1.bytesAt l =
      files.bytesAt l ++ utf8 (String.join (fileLines l h now r)) := by
  cases hrequest : (setup? h).bind (·.request) with
  | none =>
    have hsink : (session h).sink = none := by simp [session, hrequest]
    simp [Session.files_deliver hsink, fileLines, hrequest]
  | some request =>
    have hsink : (session h).sink = some (sinkOf request) := by simp [session, hrequest]
    obtain ⟨setup, hsetup, -⟩ := Option.bind_eq_some_iff.1 hrequest
    have hadmit := isAtLeast_threshold r hsetup
    have hfiles : ((session h).deliver now files r).1 =
        if passes r && Session.isAtLeast r.level request.level then
          (sinkOf request).write files (fileLine h now r)
        else files := by
      rw [Session.deliver, hadmit, Session.sinkFiles, hsink, session_fileLine]
      cases passes r <;> rfl
    rw [hfiles, fileLines, hrequest]
    dsimp only
    cases hlisted : passes r && Session.isAtLeast r.level request.level with
    | false => simp
    | true =>
      have hfull : ((sinkOf request).isFull files (fileLine h now r) &&
          decide (0 < (sinkOf request).backups)) = false := by
        have hlevel : (passes r && Session.isAtLeast r.level (sinkOf request).level) = true :=
          hlisted
        rw [Session.hasRoom, hsink, hadmit, session_fileLine] at hroom
        dsimp only at hroom
        rwa [hlevel, Bool.true_and, Bool.not_eq_true'] at hroom
      rw [if_pos rfl, Sink.bytesAt_write (hfixed _ hsink) hfull]
      by_cases hl : Files.destination request.path = l <;> simp [sinkOf, hl]

/-! ### Setting up -/

/-- A session that is set up writes the record about it, and nothing else. -/
theorem configure_eq_ok {s : Session} {now : Moment} {files : Files} {level : Level}
    {request : Option Session.SinkRequest} {d : Delivery}
    (h : s.configure now files level request = (d, .ok ())) :
    d.session = ⟨s.context, some level, request.map sinkOf, true⟩ ∧
      (∀ sink, request.map sinkOf = some sink → Files.isFixed sink.location = false) ∧
      ∃ opened : Files, (∀ q, opened.bytesAt q = files.bytesAt q) ∧
        (d.files, d.console) =
          d.session.deliver now opened (Session.configured level (request.map (·.path))) := by
  unfold Session.configure at h
  cases request with
  | none =>
    obtain ⟨rfl, -⟩ := Prod.mk.inj h
    exact ⟨rfl, by simp, files, fun q => rfl, rfl⟩
  | some request =>
    cases hopen : Session.openSink files request with
    | mk opened outcome =>
      dsimp only at h
      rw [hopen] at h
      cases outcome with
      | error e => cases (Prod.mk.inj h).2
      | ok l =>
        obtain ⟨rfl, -⟩ := Prod.mk.inj h
        -- The directories that are made and the empty text that is added leave all bytes alone.
        obtain ⟨rfl, hfixed, made, hmade, rfl⟩ := openSink_eq_ok hopen
        refine ⟨rfl, ?_, _, ?_, rfl⟩
        · intro sink hsink
          obtain rfl := Option.some.inj hsink
          exact hfixed
        · intro q
          rw [Files.bytesAt_append hfixed, Files.bytesAt_congr (hmade q)]
          simp

/-! ### One call -/

/-- A call that succeeds brings what its history says into force, puts the lines of its record where
they belong, and nothing else. -/
theorem call_eq_ok {files : Files} {now : Moment} {c : Call} {d : Delivery}
    (hfixed : ∀ sink, (session h).sink = some sink → Files.isFixed sink.location = false)
    (hdone : (session h).call now files c = (d, .ok ()))
    (hroom : ∀ r, c.record? = some r → d.session.hasRoom now files r = true) :
    d.session = session ((now, c) :: h) ∧
      (∀ sink, d.session.sink = some sink → Files.isFixed sink.location = false) ∧
      d.console = String.join (latest consoleLines ((now, c) :: h)) ∧
      ∀ l, d.files.bytesAt l =
        files.bytesAt l ++ utf8 (String.join (latest (fileLines l) ((now, c) :: h))) := by
  cases c with
  | setContext run source =>
    obtain ⟨rfl, -⟩ := Prod.mk.inj hdone
    refine ⟨?_, hfixed, rfl, by simp [latest, Call.record?]⟩
    cases run <;> cases source <;> rfl
  | clearSource =>
    obtain ⟨rfl, -⟩ := Prod.mk.inj hdone
    exact ⟨rfl, hfixed, rfl, by simp [latest, Call.record?]⟩
  | log r =>
    obtain ⟨rfl, -⟩ := Prod.mk.inj hdone
    refine ⟨rfl, hfixed, deliver_console ((now, .log r) :: h) now r files, ?_⟩
    intro l
    exact bytesAt_deliver hfixed (hroom r rfl) l
  | configure level request =>
    obtain ⟨hsession, hrequest, opened, hopened, hdeliver⟩ := configure_eq_ok hdone
    have hsink : d.session.sink = request.map sinkOf := by rw [hsession]
    rw [← hsink] at hrequest
    have hroom' := hroom _ rfl
    rw [← Session.hasRoom_congr hopened] at hroom'
    have hlatest : d.session = session ((now, .configure level request) :: h) := hsession
    rw [hlatest] at hdeliver hroom' hrequest
    obtain ⟨hfiles, hconsole⟩ := Prod.mk.inj hdeliver
    refine ⟨hlatest, hlatest ▸ hrequest, ?_, ?_⟩
    · rw [hconsole]
      exact deliver_console _ now _ opened
    · intro l
      rw [hfiles, ← hopened l]
      exact bytesAt_deliver hrequest hroom' l

/-! ### Whole sessions -/

/-- The session after its calls with what it has written, from a store on. -/
def result (files : Files) : History → Delivery
  | [] => ⟨.start, files, ""⟩
  | (now, c) :: earlier =>
    let d := result files earlier
    let (d', _) := d.session.call now d.files c
    ⟨d'.session, d'.files, d.console ++ d'.console⟩

/-- Whether every call succeeds and none sets a log file aside. -/
def isRegular (files : Files) : History → Bool
  | [] => true
  | (now, c) :: earlier =>
    isRegular files earlier &&
      let d := result files earlier
      let (d', outcome) := d.session.call now d.files c
      outcome.isOk && c.record?.all (d'.session.hasRoom now d.files)

theorem result_of_isRegular {files : Files} (hregular : isRegular files h = true) :
    (result files h).session = session h ∧
      (∀ sink, (result files h).session.sink = some sink → Files.isFixed sink.location = false) ∧
      (result files h).console = String.join (all consoleLines h) ∧
      ∀ l, (result files h).files.bytesAt l =
        files.bytesAt l ++ utf8 (String.join (all (fileLines l) h)) := by
  induction h with
  | nil => exact ⟨rfl, by simp [result, Session.start], rfl, by simp [all, result]⟩
  | cons call earlier ih =>
    obtain ⟨now, c⟩ := call
    rw [isRegular, Bool.and_eq_true, Bool.and_eq_true] at hregular
    obtain ⟨hearlier, hok, hroom⟩ := hregular
    obtain ⟨hsession, hfixed, hconsole, hfiles⟩ := ih hearlier
    rw [hsession] at hfixed hok hroom
    cases hdone : (session earlier).call now (result files earlier).files c with
    | mk d outcome =>
      have hresult : result files ((now, c) :: earlier) =
          ⟨d.session, d.files, (result files earlier).console ++ d.console⟩ := by
        rw [result, hsession, hdone]
      rw [hdone] at hok hroom
      cases outcome with
      | error e => cases hok
      | ok u =>
        obtain ⟨hsession', hfixed', hconsole', hfiles'⟩ :=
          call_eq_ok hfixed hdone fun r hr => by simpa [hr] using hroom
        rw [hresult]
        refine ⟨hsession', hfixed', ?_, ?_⟩
        · rw [hconsole, hconsole', all, String.join_append]
        · intro l
          rw [hfiles', hfiles, all, String.join_append, utf8_append, List.append_assoc]

theorem isRegular_of_append {files : Files} {later : History}
    (hregular : isRegular files (later ++ h) = true) : isRegular files h = true := by
  induction later with
  | nil => exact hregular
  | cons call later ih =>
    rw [List.cons_append, isRegular, Bool.and_eq_true] at hregular
    exact ih hregular.1

/-- A record that passes its logger is one line on the console or none, by the level that the
console was given last. -/
theorem latest_consoleLines {now : Moment} {c : Call} {r : Record} {setup : Setup}
    (hrecord : c.record? = some r) (hsetup : setup? ((now, c) :: h) = some setup)
    (hpasses : passes r = true) :
    latest consoleLines ((now, c) :: h) =
      if setup.level.rank ≤ r.level.rank then [consoleLine ((now, c) :: h) now r] else [] := by
  simp [latest, hrecord, consoleLines, hsetup, hpasses, Session.isAtLeast]

/-- A record that passes its logger is one line of the log file that was asked for last, or none, by
the level of that file. -/
theorem latest_fileLines {now : Moment} {c : Call} {r : Record} {setup : Setup}
    (hrecord : c.record? = some r) (hsetup : setup? ((now, c) :: h) = some setup)
    (hpasses : passes r = true) (l : Path) :
    latest (fileLines l) ((now, c) :: h) =
      match setup.request with
      | none => []
      | some request =>
        if Files.destination request.path = l ∧ request.level.rank ≤ r.level.rank then
          [fileLine ((now, c) :: h) now r]
        else [] := by
  cases hrequest : setup.request with
  | none => simp [latest, hrecord, fileLines, hsetup, hrequest]
  | some request =>
    simp [latest, hrecord, fileLines, hsetup, hrequest, hpasses, Session.isAtLeast, and_comm]

/-- A session writes the lines of its records and nothing else. Once it has been set up, each record
is written once when it is logged: to the console, if the level is at least the one that the console
was given last, and to the log file that was asked for last, if there is one and the level is at
least its own. No other file receives it. The lines name the run and the source that were set last,
as the session itself does. -/
theorem delivered_once {files : Files} (hregular : isRegular files h = true) :
    (result files h).console = String.join (all consoleLines h) ∧
      (∀ l, (result files h).files.bytesAt l =
        files.bytesAt l ++ utf8 (String.join (all (fileLines l) h))) ∧
      (∀ later now c earlier r setup, h = later ++ (now, c) :: earlier →
        c.record? = some r → setup? ((now, c) :: earlier) = some setup →
        Level.debug.rank ≤ r.level.rank → Session.isEnvironmentLogger r.logger = false →
        (result files ((now, c) :: earlier)).console = (result files earlier).console ++
          (if setup.level.rank ≤ r.level.rank then consoleLine ((now, c) :: earlier) now r
            else "") ∧
        ∀ l, (result files ((now, c) :: earlier)).files.bytesAt l =
          (result files earlier).files.bytesAt l ++
            match setup.request with
            | none => []
            | some request =>
              if Files.destination request.path = l ∧ request.level.rank ≤ r.level.rank then
                utf8 (fileLine ((now, c) :: earlier) now r)
              else []) ∧
      (result files h).session.context.toValue =
        .map [(.text "run_tag", .text (runText h)), (.text "run_id_full", .text (idText h)),
          (.text "source", .text (sourceText h))] := by
  obtain ⟨hsession, -, hconsole, hfiles⟩ := result_of_isRegular hregular
  refine ⟨hconsole, hfiles, ?each, ?context⟩
  case each =>
    rintro later now c earlier r setup rfl hrecord hsetup hlevel hlogger
    have hpasses : passes r = true := by simp [passes, hlogger, Session.isAtLeast, hlevel]
    have hthen := isRegular_of_append hregular
    obtain ⟨-, -, hconsole', hfiles'⟩ := result_of_isRegular hthen
    rw [isRegular, Bool.and_eq_true] at hthen
    obtain ⟨-, -, hconsole, hfiles⟩ := result_of_isRegular hthen.1
    refine ⟨?_, fun l => ?_⟩
    · rw [hconsole', hconsole, all, String.join_append, latest_consoleLines hrecord hsetup hpasses]
      split <;> simp
    · rw [hfiles', hfiles, all, String.join_append, utf8_append, List.append_assoc,
        latest_fileLines hrecord hsetup hpasses]
      cases setup.request with
      | none => simp
      | some request =>
        dsimp only
        split <;> simp
  case context =>
    rw [hsession, Context.toValue]
    simp [session, shown_context]

/-- A session that is set up twice, the second time with another log file. Its source is set alone
and cleared, and then its run is set. -/
def twoFiles : History :=
  let now : Moment := ⟨⟨2024, 1, 2⟩, 3, 4, 5, 0, none⟩
  [(now, .log ⟨.warning, "scan", "careful"⟩),
    (now, .setContext (some "run-2") none),
    (now, .configure .warning (some ⟨Path.ofText "b.log", .info, 0, 5⟩)),
    (now, .clearSource),
    (now, .log ⟨.info, "scan", "classified"⟩),
    (now, .setContext none (some (Path.ofText "data/names.csv"))),
    (now, .configure .warning (some ⟨Path.ofText "logs/a.log", .debug, 0, 5⟩))]

theorem delivered_once_two_files :
    isRegular Files.empty twoFiles = true ∧
      (result Files.empty twoFiles).console = "03:04:05 [WARNING] r=e6175f20 src=- | careful\n" ∧
      (result Files.empty twoFiles).files.bytesAt (Path.ofText "logs/a.log") = utf8
        ("2024-01-02 03:04:05 [INFO] infrastructure.observability.logging | r=- src=- | " ++
          "Logging configured (console_level=WARNING, file=logs/a.log)\n" ++
          "2024-01-02 03:04:05 [INFO] scan | r=- src=names.csv | classified\n") ∧
      (result Files.empty twoFiles).files.bytesAt (Path.ofText "b.log") = utf8
        ("2024-01-02 03:04:05 [INFO] infrastructure.observability.logging | r=- src=- | " ++
          "Logging configured (console_level=WARNING, file=b.log)\n" ++
          "2024-01-02 03:04:05 [WARNING] scan | r=e6175f20 src=- | careful\n") := by
  have hregular : isRegular Files.empty twoFiles = true := by decide +kernel
  obtain ⟨hconsole, hfiles, -, -⟩ := delivered_once hregular
  refine ⟨hregular, hconsole.trans ?_, (hfiles _).trans ?_, (hfiles _).trans ?_⟩
  · decide +kernel
  · decide +kernel
  · decide +kernel

end History

end Log

end CryptoAudit
