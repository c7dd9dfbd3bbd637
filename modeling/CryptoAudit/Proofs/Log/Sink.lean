import CryptoAudit.Log.Session
import CryptoAudit.Proofs.Files.Store

/-!
# Changes by log files

Opening a log file changes at most that file, and adds nothing to it. A line changes it too, and if
the log file is set aside for it, so do the numbered files beside it.

## Main results

* `Log.Sink.bytesAt_write`: a line for which the log file is not set aside
* `Log.Sink.fileAt?_write`: the files that a line can change
* `Log.openSink_eq_ok`, `Log.fileAt?_openSink`: opening a log file
* `Log.Session.files_deliver`: without a log file no file changes
-/

namespace CryptoAudit

namespace Files

variable {files : Files} {l p q : Path}

theorem nodeAt_drop_of_ne (h : l ≠ q) : (files.drop l).nodeAt q = files.nodeAt q := by
  have hfield : field? q (files.nodes.filter (·.1 != l)) = field? q files.nodes := by
    induction files.nodes with
    | nil => rfl
    | cons node nodes ih =>
      obtain ⟨p, n⟩ := node
      by_cases hp : p = l
      · subst hp
        simp [field?, h, ih]
      · simp [field?, hp, ih]
  simp [nodeAt, drop, hfield]

/-- Moving a node changes what lies at two locations. -/
theorem fileAt?_move (hsource : l ≠ q) (htarget : p ≠ q) :
    (files.move l p).fileAt? q = files.fileAt? q := by
  unfold move
  split
  · rfl
  · rw [fileAt?_put_of_ne htarget, fileAt?, nodeAt_drop_of_ne hsource, fileAt?]

/-- Moving on the first `n` files that were set aside changes them and the one after them. -/
theorem fileAt?_shiftBackups {n : Nat} (h : ∀ i, 1 ≤ i → i ≤ n + 1 → backup l i ≠ q) :
    (files.shiftBackups l n).fileAt? q = files.fileAt? q := by
  induction n generalizing files with
  | zero => rfl
  | succ n ih =>
    rw [shiftBackups, ih fun i hlow hhigh => h i hlow (by omega)]
    exact fileAt?_move (h _ (by omega) (by omega)) (h _ (by omega) (by omega))

/-- Setting a log file aside changes it and the files set aside before. -/
theorem fileAt?_rollOver {count : Nat} (hcount : 0 < count) (hlog : l ≠ q)
    (h : ∀ i, 1 ≤ i → i ≤ count → backup l i ≠ q) :
    (files.rollOver l count).fileAt? q = files.fileAt? q := by
  rw [rollOver, fileAt?_put_of_ne hlog, fileAt?_move hlog (h 1 (by omega) hcount)]
  exact fileAt?_shiftBackups fun i hlow hhigh => h i hlow (by omega)

end Files

namespace Log

/-- A line for which the log file is not set aside is added to it, and to no other file. -/
theorem Sink.bytesAt_write {sink : Sink} {files : Files} {line : String}
    (hfixed : Files.isFixed sink.location = false)
    (hroom : (sink.isFull files line && decide (0 < sink.backups)) = false) (l : Path) :
    (sink.write files line).bytesAt l =
      files.bytesAt l ++ if sink.location = l then utf8 line else [] := by
  rw [Sink.write, hroom]
  exact Files.bytesAt_append hfixed line l

/-- A line changes the log file, and those that were set aside. -/
theorem Sink.fileAt?_write {sink : Sink} {q : Path} (hlog : sink.location ≠ q)
    (h : ∀ i, 1 ≤ i → i ≤ sink.backups.toNat → Files.backup sink.location i ≠ q)
    (files : Files) (line : String) :
    (sink.write files line).fileAt? q = files.fileAt? q := by
  rw [Sink.write]
  split
  · next hfull =>
    have hbackups : 0 < sink.backups := of_decide_eq_true (Bool.and_eq_true_iff.1 hfull).2
    rw [Files.append, Files.fileAt?_put_of_ne hlog]
    exact Files.fileAt?_rollOver (by omega) hlog h
  · rw [Files.append, Files.fileAt?_put_of_ne hlog]

/-- A log file that can be opened lies where its path leads, where no directory is. -/
theorem openSink_eq_ok {files files' : Files} {request : Session.SinkRequest} {l : Path}
    (h : Session.openSink files request = (files', .ok l)) :
    l = Files.destination request.path ∧ Files.isFixed l = false ∧
      ∃ made : Files, (∀ q, made.fileAt? q = files.fileAt? q) ∧ files' = made.append l "" := by
  rw [Session.openSink] at h
  split at h
  · cases h
  · next made hmade =>
    split at h
    · cases h
    · split at h
      · cases h
      · next l' hlocate =>
        obtain ⟨rfl, hok⟩ := Prod.mk.inj h
        obtain rfl := Except.ok.inj hok
        obtain ⟨hl, hdirectory⟩ := Files.locateFile_eq_ok hlocate
        refine ⟨hl, Files.isFixed_of_nodeAt_ne hdirectory, made, ?_, rfl⟩
        intro q
        have hbefore := Files.fileAt?_makeDirs files request.path.parent q
        rwa [hmade] at hbefore

/-- Opening a log file changes no other file, whether or not it can be opened. -/
theorem fileAt?_openSink {files : Files} {request : Session.SinkRequest} {q : Path}
    (h : Files.destination request.path ≠ q) :
    (Session.openSink files request).1.fileAt? q = files.fileAt? q := by
  have hbefore := Files.fileAt?_makeDirs files request.path.parent q
  rw [Session.openSink]
  split
  · next made e hmade => rwa [hmade] at hbefore
  · next made hmade =>
    rw [hmade] at hbefore
    split
    · exact hbefore
    · split
      · exact hbefore
      · next l hlocate =>
        obtain ⟨rfl, -⟩ := Files.locateFile_eq_ok hlocate
        rw [Files.append, Files.fileAt?_put_of_ne h, hbefore]

/-! ### Sessions without a log file -/

namespace Session

variable {s : Session} (hsink : s.sink = none) (now : Moment) (files : Files)

include hsink

/-- Without a log file a record goes to the console alone. -/
theorem files_deliver (record : Record) : (s.deliver now files record).1 = files := by
  rw [deliver, sinkFiles, hsink]
  split <;> rfl

theorem files_deliverAll (records : List Record) : (s.deliverAll now files records).1 = files := by
  induction records with
  | nil => rfl
  | cons record records ih =>
    rw [deliverAll]
    simp only [files_deliver hsink, ih]

end Session

end Log

end CryptoAudit
