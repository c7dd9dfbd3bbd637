import CryptoAudit.Command.Scan
import CryptoAudit.Proofs.Files.Store
import CryptoAudit.Proofs.Path

/-!
# The directory of a scan

The directory of a scan is named for the second in which it starts and for its table. The name tells
both: two scans with one directory have started in the same second, and their tables have the same
name but for the suffix.

## Main definitions

* `Moment.IsPlain`: a point in time whose numbers have their usual number of digits
* `Command.SameRun`: two scans that a directory does not tell apart
* `Files.entry`: the location of an entry of a directory

## Main results

* `padded_inj`: a number is told by its digits
* `Command.runId_inj`: the second and the table from the name of a scan
* `Command.destination_runDirectory`: where the directory of a scan lies
* `Command.sameRun_of_destination_eq`: scans with one directory
-/

namespace CryptoAudit

/-! ### Numbers with zeros in front -/

theorem toList_padded (width n : Nat) : (padded width n).toList =
    List.replicate (width - (Nat.toDigits 10 n).length) '0' ++ Nat.toDigits 10 n := by
  simp [padded]

/-- A number is told by its digits, whatever the width. -/
theorem padded_inj {w v m n : Nat} (h : padded w m = padded v n) : m = n := by
  have hread (width k : Nat) : Nat.ofDigitChars 10 (padded width k).toList 0 = k := by
    rw [toList_padded, Nat.ofDigitChars_append, Nat.ofDigitChars_replicate_zero, Nat.mul_zero,
      Nat.ofDigitChars_toDigits (by decide) (by decide)]
  rw [← hread w m, h, hread]

theorem length_padded {width n : Nat} (h : (Nat.toDigits 10 n).length ≤ width) :
    (padded width n).toList.length = width := by
  rw [toList_padded, List.length_append, List.length_replicate]
  omega

theorem slash_notMem_padded (width n : Nat) : '/' ∉ (padded width n).toList := by
  rw [toList_padded, List.mem_append, not_or]
  refine ⟨fun h => by simp at h, fun h => ?_⟩
  exact absurd (Nat.isDigit_of_mem_toDigits (by decide) (by decide) h) (by decide)

/-- A point in time whose year has at most four digits, and whose other numbers have at most
two. -/
structure Moment.IsPlain (t : Moment) : Prop where
  year : t.date.year < 10000
  month : t.date.month < 100
  day : t.date.day < 100
  hour : t.hour < 100
  minute : t.minute < 100
  second : t.second < 100

namespace Command

/-! ### The name of a scan -/

/-- Two scans start in the same second, with tables of the same name but for the suffix. -/
structure SameRun (now now' : Moment) (config config' : ScanConfig) : Prop where
  date : now.date = now'.date
  hour : now.hour = now'.hour
  minute : now.minute = now'.minute
  second : now.second = now'.second
  stem : config.inputFile.stem = config'.inputFile.stem

variable {now now' : Moment} {config config' : ScanConfig}

theorem toList_runId (now : Moment) (config : ScanConfig) : (runId now config).toList =
    (padded 4 now.date.year).toList ++ ((padded 2 now.date.month).toList ++
      ((padded 2 now.date.day).toList ++ ('_' :: ((padded 2 now.hour).toList ++
        ((padded 2 now.minute).toList ++ ((padded 2 now.second).toList ++
          ('_' :: config.inputFile.stem.toList))))))) := by
  simp [runId]

/-- Equal numbers of one width can be taken off the front of two lists. -/
theorem eq_of_padded_append {width m n : Nat} {cs ds : List Char}
    (hm : (Nat.toDigits 10 m).length ≤ width) (hn : (Nat.toDigits 10 n).length ≤ width)
    (h : (padded width m).toList ++ cs = (padded width n).toList ++ ds) : m = n ∧ cs = ds := by
  have hlength := (length_padded hm).trans (length_padded hn).symm
  obtain ⟨hdigits, hrest⟩ := List.append_inj h hlength
  exact ⟨padded_inj (String.toList_inj.1 hdigits), hrest⟩

/-- The name of a scan tells the second in which it starts and its table. -/
theorem runId_inj (hplain : now.IsPlain) (hplain' : now'.IsPlain)
    (h : runId now config = runId now' config') : SameRun now now' config config' := by
  have hchars := congrArg String.toList h
  rw [toList_runId, toList_runId] at hchars
  have four {n : Nat} (hn : n < 10000) : (Nat.toDigits 10 n).length ≤ 4 :=
    (Nat.length_toDigits_le_iff (by decide) (by decide)).2 hn
  have two {n : Nat} (hn : n < 100) : (Nat.toDigits 10 n).length ≤ 2 :=
    (Nat.length_toDigits_le_iff (by decide) (by decide)).2 hn
  obtain ⟨hyear, hchars⟩ := eq_of_padded_append (four hplain.year) (four hplain'.year) hchars
  obtain ⟨hmonth, hchars⟩ := eq_of_padded_append (two hplain.month) (two hplain'.month) hchars
  obtain ⟨hday, hchars⟩ := eq_of_padded_append (two hplain.day) (two hplain'.day) hchars
  obtain ⟨-, hchars⟩ := List.cons.inj hchars
  obtain ⟨hhour, hchars⟩ := eq_of_padded_append (two hplain.hour) (two hplain'.hour) hchars
  obtain ⟨hminute, hchars⟩ := eq_of_padded_append (two hplain.minute) (two hplain'.minute) hchars
  obtain ⟨hsecond, hchars⟩ := eq_of_padded_append (two hplain.second) (two hplain'.second) hchars
  obtain ⟨-, hstem⟩ := List.cons.inj hchars
  have hdate : now.date = now'.date := by
    cases hnow : now.date
    cases hnow' : now'.date
    simp_all
  exact ⟨hdate, hhour, hminute, hsecond, String.toList_inj.1 hstem⟩

theorem underscore_mem_runId (now : Moment) (config : ScanConfig) :
    '_' ∈ (runId now config).toList := by
  rw [toList_runId]
  simp

end Command

/-- The stem of a proper path has no slash. -/
theorem Path.slash_notMem_stem {p : Path} (h : p.IsProper) : '/' ∉ p.stem.toList := by
  have hname : '/' ∉ p.name.toList := by
    rw [name]
    cases hlast : p.parts.getLast? with
    | none => exact List.not_mem_nil
    | some part => exact (h part (List.mem_of_getLast? hlast)).2.2
  rw [stem, String.toList_ofList, splitName]
  split
  · exact hname
  · exact fun hslash => hname (List.mem_of_mem_take hslash)

namespace Command

variable {now now' : Moment} {config config' : ScanConfig}

theorem slash_notMem_runId (h : config.inputFile.IsProper) (now : Moment) :
    '/' ∉ (runId now config).toList := by
  rw [toList_runId]
  simp [slash_notMem_padded, Path.slash_notMem_stem h]

end Command

/-! ### Locations in a directory -/

namespace Files

/-- The location of an entry of a directory. -/
def entry (directory : Path) (name : String) : Path :=
  { directory with parts := directory.parts ++ [name] }

theorem entry_inj {l l' : Path} {name name' : String} (h : entry l name = entry l' name') :
    l = l' ∧ name = name' := by
  obtain ⟨root, parts⟩ := l
  obtain ⟨root', parts'⟩ := l'
  obtain ⟨rfl, hparts⟩ := Path.mk.inj h
  obtain ⟨rfl, hname⟩ := List.append_inj' hparts rfl
  exact ⟨rfl, List.singleton_inj.1 hname⟩

/-- A text of one name is the path of an entry. -/
theorem destination_child {directory : Path} {name : String}
    (hname : Path.ofText name = ⟨.relative, [name]⟩) (hup : name ≠ "..") :
    destination (directory.child name) = entry (destination directory) name := by
  have hchild : directory.child name = entry directory name := by
    rw [Path.child, hname]
    rfl
  rw [hchild, destination, entry, List.foldl_append, List.foldl_cons, List.foldl_nil, enter,
    if_neg hup]
  rfl

end Files

namespace Command

variable {now now' : Moment} {config config' : ScanConfig}

theorem ofText_runId (h : config.inputFile.IsProper) (now : Moment) :
    Path.ofText (runId now config) = ⟨.relative, [runId now config]⟩ := by
  -- The name is one part of a path: its underscores tell it from the empty text and from dots.
  have hunderscore := underscore_mem_runId now config
  have hproper : (⟨.relative, [runId now config]⟩ : Path).IsProper := by
    rw [Path.IsProper, List.forall_mem_singleton]
    refine ⟨List.ne_nil_of_mem hunderscore, ?_, slash_notMem_runId h now⟩
    intro hdot
    rw [hdot] at hunderscore
    exact absurd hunderscore (by decide)
  have htext : (⟨.relative, [runId now config]⟩ : Path).text = runId now config := by
    simp [Path.text, Path.rootText]
  rw [← htext, Path.ofText_text hproper, htext]

/-- The directory of a scan is an entry of the directory of results. -/
theorem destination_runDirectory (h : config.inputFile.IsProper) (now : Moment) :
    Files.destination (runDirectory now config) =
      Files.entry (Files.destination config.outputRoot) (runId now config) := by
  apply Files.destination_child (ofText_runId h now)
  intro hup
  have hunderscore := underscore_mem_runId now config
  rw [hup] at hunderscore
  exact absurd hunderscore (by decide)

/-- Scans with one directory have started in the same second, with tables of the same name but for
the suffix. -/
theorem sameRun_of_destination_eq (hplain : now.IsPlain) (hplain' : now'.IsPlain)
    (hinput : config.inputFile.IsProper) (hinput' : config'.inputFile.IsProper)
    (h : Files.destination (runDirectory now config) =
      Files.destination (runDirectory now' config')) : SameRun now now' config config' := by
  rw [destination_runDirectory hinput, destination_runDirectory hinput'] at h
  exact runId_inj hplain hplain' (Files.entry_inj h).2

end Command

end CryptoAudit
