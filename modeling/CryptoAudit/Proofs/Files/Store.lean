import CryptoAudit.Files.Store

/-!
# Changes of the file store

A path that leads anywhere leads to one location, whatever lies in the store. Adding a text changes
the file at one location, and making directories changes no file.

## Main definitions

* `Content.bytes`: what a file holds, as bytes
* `Files.destination`: the location that a path leads to
* `Files.fileAt?`: what the file at a location holds

## Main results

* `Content.bytes_append`: a text is added after the bytes of a file
* `Files.locateFile_eq_ok`: where a file may be written
* `Files.fileAt?_put_of_ne`, `Files.fileAt?_put_file`: the files after a file is put at a location
* `Files.fileAt?_makeDirs`: making directories changes no file
-/

namespace CryptoAudit

/-! ### Bytes -/

/-- The bytes of a text. -/
def utf8 (s : String) : List UInt8 :=
  s.toUTF8.data.toList

@[simp] theorem utf8_empty : utf8 "" = [] := rfl

@[simp] theorem utf8_append (s t : String) : utf8 (s ++ t) = utf8 s ++ utf8 t := by
  simp [utf8, String.toByteArray_append]

theorem length_utf8 (s : String) : (utf8 s).length = s.utf8ByteSize := by
  simp [utf8]

/-- Bytes are listed by a loop, which puts those from an index on behind what it has. -/
theorem listLoop_eq (bytes : ByteArray) (i : Nat) (acc : List UInt8) :
    ByteArray.toList.loop bytes i acc = acc.reverse ++ bytes.data.toList.drop i := by
  fun_induction ByteArray.toList.loop bytes i acc with
  | case1 i acc hlt ih =>
    have hindex : i < bytes.data.toList.length := hlt
    have hget : bytes.get! i = bytes.data.toList[i] := by
      simp [ByteArray.get!, getElem!_pos bytes.data i hlt]
    rw [ih, List.drop_eq_getElem_cons hindex, hget]
    simp
  | case2 i acc hge =>
    have hdrop : bytes.data.toList.drop i = [] := List.drop_eq_nil_of_le (Nat.le_of_not_lt hge)
    rw [hdrop, List.append_nil]

theorem toList_byteArray (bytes : ByteArray) : bytes.toList = bytes.data.toList := by
  simp [ByteArray.toList, listLoop_eq]

namespace Content

/-- What a file holds, as bytes. -/
def bytes : Content → List UInt8
  | text s => utf8 s
  | binary bytes => bytes

theorem bytes_ofBytes (bytes : List UInt8) : (ofBytes bytes).bytes = bytes := by
  unfold ofBytes String.fromUTF8?
  split
  · next s hs =>
    split at hs
    · obtain rfl := Option.some.inj hs
      rfl
    · cases hs
  · rfl

/-- A text is added after the bytes of a file. -/
theorem bytes_append (c : Content) (t : String) : (c.append t).bytes = c.bytes ++ utf8 t := by
  cases c with
  | text s => exact utf8_append s t
  | binary bytes => rw [append, bytes_ofBytes, toList_byteArray]; rfl

theorem size_eq (c : Content) : c.size = c.bytes.length := by
  cases c with
  | text s => exact (length_utf8 s).symm
  | binary bytes => rfl

/-- A text without carriage returns stays as it is. -/
theorem normalLines_eq_self {cs : List Char} (h : '\r' ∉ cs) : normalLines cs = cs := by
  fun_induction normalLines cs with
  | case1 => rfl
  | case2 cs ih => simp at h
  | case3 cs _ ih => simp at h
  | case4 c cs _ _ ih => rw [ih fun hmem => h (List.mem_cons_of_mem c hmem)]

end Content

namespace Files

variable {files : Files} {p q l : Path}

/-! ### Where a path leads -/

/-- The location that a path leads to, if it leads anywhere. -/
def destination (p : Path) : Path :=
  p.parts.foldl enter ⟨if p.root = .relative then .relative else .slash, []⟩

theorem walk_eq_ok {parts : List String} (h : files.walk parts p = .ok l) :
    l = parts.foldl enter p := by
  induction parts generalizing p with
  | nil => exact (Except.ok.inj h).symm
  | cons part parts ih =>
    rw [walk] at h
    split at h
    · cases h
    · cases h
    · split at h
      · cases h
      · exact ih h

theorem locate_eq_ok (h : files.locate p = .ok l) : l = destination p := by
  rw [locate] at h
  split at h
  · cases h
  · exact walk_eq_ok h

theorem isFixed_of_nodeAt_ne (h : files.nodeAt l ≠ some .directory) : isFixed l = false := by
  rw [Bool.eq_false_iff]
  intro hfixed
  exact h (by simp [nodeAt, hfixed])

/-- A file may be written where a path leads, unless a directory lies there. -/
theorem locateFile_eq_ok (h : files.locateFile p = .ok l) :
    l = destination p ∧ files.nodeAt l ≠ some .directory := by
  unfold locateFile at h
  cases hlocate : files.locate p with
  | error f => rw [hlocate] at h; cases h
  | ok l' =>
    rw [hlocate] at h
    simp only [bind, Except.bind] at h
    split at h
    · cases h
    · obtain rfl := Except.ok.inj h
      exact ⟨locate_eq_ok hlocate, by assumption⟩

/-! ### What files hold -/

/-- What the file at a location holds, if a file lies there. -/
def fileAt? (files : Files) (l : Path) : Option Content :=
  match files.nodeAt l with
  | some (.file c) => some c
  | _ => none

theorem contentAt_eq (files : Files) (l : Path) :
    files.contentAt l = (files.fileAt? l).getD (.text "") := by
  unfold contentAt fileAt?
  split <;> simp_all

theorem fileAt?_put_of_ne {n : FileNode} (h : l ≠ q) :
    (files.put l n).fileAt? q = files.fileAt? q := by
  rw [fileAt?, fileAt?, nodeAt_put_of_ne h]

theorem fileAt?_put_file {c : Content} (h : isFixed l = false) :
    (files.put l (.file c)).fileAt? l = some c := by
  rw [fileAt?, nodeAt_put_self h]

/-- A directory that is put where nothing lies changes no file. -/
theorem fileAt?_put_directory (h : files.nodeAt l = none) (q : Path) :
    (files.put l .directory).fileAt? q = files.fileAt? q := by
  by_cases hq : l = q
  · subst hq
    have hne : files.nodeAt l ≠ some .directory := by simp [h]
    have hfixed := isFixed_of_nodeAt_ne hne
    rw [fileAt?, fileAt?, nodeAt_put_self hfixed, h]
  · exact fileAt?_put_of_ne hq

/-! ### Writing -/

theorem write_eq_ok {text : String} {files' : Files} (h : files.write p text = .ok files') :
    ∃ l, files.locateFile p = .ok l ∧ files' = files.put l (.file (.text text)) := by
  unfold write withPath blame at h
  split at h
  · cases h
  · cases hlocate : files.locateFile p with
    | error f => rw [hlocate] at h; cases h
    | ok l =>
      rw [hlocate] at h
      exact ⟨l, rfl, (Except.ok.inj h).symm⟩

/-- Writing changes the file at the end of the path only. -/
theorem fileAt?_write {text : String} {files' : Files} (h : files.write p text = .ok files')
    (hq : destination p ≠ q) : files'.fileAt? q = files.fileAt? q := by
  obtain ⟨l, hlocate, rfl⟩ := write_eq_ok h
  obtain ⟨rfl, -⟩ := locateFile_eq_ok hlocate
  exact fileAt?_put_of_ne hq

/-! ### Making directories -/

theorem makeDir_eq_ok {files' : Files} (h : files.makeDir p = .ok files') :
    ∃ l, files.nodeAt l = none ∧ files' = files.put l .directory := by
  unfold makeDir at h
  cases hlocate : files.locate p with
  | error f => rw [hlocate] at h; cases h
  | ok l =>
    rw [hlocate] at h
    simp only [bind, Except.bind] at h
    split at h
    · cases h
    · next hnone => exact ⟨l, by simpa using hnone, (Except.ok.inj h).symm⟩

theorem fileAt?_makeDir {files' : Files} (h : files.makeDir p = .ok files') (q : Path) :
    files'.fileAt? q = files.fileAt? q := by
  obtain ⟨l, hnone, rfl⟩ := makeDir_eq_ok h
  exact fileAt?_put_directory hnone q

theorem fileAt?_makeDirsTo (files : Files) (p : Path) (n : Nat) (q : Path) :
    (files.makeDirsTo p n).1.fileAt? q = files.fileAt? q := by
  -- By induction on the number of parts. A directory is made at once, or after those around it.
  induction n with
  | zero => rfl
  | succ n ih =>
    rw [makeDirsTo]
    split
    · next hmade => exact fileAt?_makeDir hmade q
    · cases hrest : files.makeDirsTo p n with
      | mk files' outcome =>
        rw [hrest] at ih
        cases outcome with
        | error e => exact ih
        | ok u =>
          dsimp only
          split
          · next hmade => rw [fileAt?_makeDir hmade, ih]
          · exact ih
    · rfl

/-- Making directories changes no file. -/
theorem fileAt?_makeDirs (files : Files) (p q : Path) :
    (files.makeDirs p).1.fileAt? q = files.fileAt? q := by
  rw [makeDirs]
  split
  · rfl
  · exact fileAt?_makeDirsTo files p p.parts.length q

/-! ### Adding a text -/

/-- The bytes of the file at a location, none if no file lies there. -/
def bytesAt (files : Files) (l : Path) : List UInt8 :=
  (files.contentAt l).bytes

theorem bytesAt_congr {files' : Files} (h : files'.fileAt? l = files.fileAt? l) :
    files'.bytesAt l = files.bytesAt l := by
  rw [bytesAt, bytesAt, contentAt_eq, contentAt_eq, h]

/-- A text is added after the bytes of one file. -/
theorem bytesAt_append (h : isFixed l = false) (text : String) (q : Path) :
    (files.append l text).bytesAt q = files.bytesAt q ++ if l = q then utf8 text else [] := by
  split
  · next hq =>
    subst hq
    rw [bytesAt, contentAt_eq, append, fileAt?_put_file h]
    exact Content.bytes_append _ _
  · next hq =>
    rw [List.append_nil]
    exact bytesAt_congr (fileAt?_put_of_ne hq)

end Files

end CryptoAudit
