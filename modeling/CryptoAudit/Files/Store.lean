import CryptoAudit.Files.Content
import CryptoAudit.Path
import CryptoAudit.Text.Quoted
import CryptoAudit.Value.Fields
import CryptoAudit.Value.Text

/-!
# The file store

Files and directories lie at locations: paths from the working directory or from the root, in
which two dots stand at most at the front. A path leads to a location if every part but the last
passes through a directory.

## Main definitions

* `Files`: the files and directories of a store
* `Files.locate`: the location that a path leads to
* `Files.read`, `Files.readLines`: reading a file
* `Files.write`, `Files.append`, `Files.makeDirs`: changing the store

## Main results

* `Files.nodeAt_put_self`, `Files.nodeAt_put_of_ne`: what lies where after a change
-/

namespace CryptoAudit

/-- Why a path cannot be used. -/
inductive PathFault where
  | notFound
  | alreadyThere
  | notDirectory
  | isDirectory
  | nameTooLong
deriving DecidableEq, Repr, Inhabited

namespace PathFault

/-- The number of a fault. -/
def number : PathFault → Nat
  | .notFound => 2
  | .alreadyThere => 17
  | .notDirectory => 20
  | .isDirectory => 21
  | .nameTooLong => 36

/-- The wording of a fault. -/
def phrase : PathFault → String
  | .notFound => "No such file or directory"
  | .alreadyThere => "File exists"
  | .notDirectory => "Not a directory"
  | .isDirectory => "Is a directory"
  | .nameTooLong => "File name too long"

end PathFault

/-- Why the store refuses an operation. -/
inductive FileError where
  | fault (f : PathFault) (path : String)
  | missing (what path : String)
  | nulInPath
  | notText
deriving DecidableEq, Repr, Inhabited

/-- The wording of a refusal. -/
def FileError.message : FileError → String
  | .fault f path => "[Errno " ++ decimal f.number ++ "] " ++ f.phrase ++ ": " ++ Text.quote path
  | .missing what path => "Missing " ++ what ++ " at: " ++ path
  | .nulInPath => "embedded null byte"
  | .notText => "invalid text"

/-- What lies at a location. -/
inductive FileNode where
  | file (content : Content)
  | directory
deriving DecidableEq, Repr, Inhabited

/-- The files and directories of a store. The working directory, the directories around it and
the root are always there. -/
structure Files where
  nodes : List (Path × FileNode)
deriving Repr, Inhabited

namespace Files

/-- A store without files. -/
def empty : Files := ⟨[]⟩

/-- Whether a location is the working directory, a directory around it, or the root. -/
def isFixed (p : Path) : Bool :=
  p.parts.all (· == "..")

/-- What lies at a location. -/
def nodeAt (files : Files) (p : Path) : Option FileNode :=
  if isFixed p then some .directory else field? p files.nodes

/-- The store with a node put at a location. -/
def put (files : Files) (p : Path) (n : FileNode) : Files :=
  ⟨setField p n files.nodes⟩

/-- The store without the node at a location. -/
def drop (files : Files) (p : Path) : Files :=
  ⟨files.nodes.filter (·.1 != p)⟩

theorem nodeAt_put_self {files : Files} {p : Path} {n : FileNode} (h : isFixed p = false) :
    (files.put p n).nodeAt p = some n := by
  simp [nodeAt, put, h, field?_setField_self]

theorem nodeAt_put_of_ne {files : Files} {p q : Path} {n : FileNode} (h : p ≠ q) :
    (files.put p n).nodeAt q = files.nodeAt q := by
  simp [nodeAt, put, field?_setField_of_ne h]

/-! ### Paths and locations -/

/-- The location of a directory's parent. -/
def up (p : Path) : Path :=
  if p.root ≠ .relative then { p with parts := p.parts.dropLast }
  else if isFixed p then { p with parts := p.parts ++ [".."] }
  else { p with parts := p.parts.dropLast }

/-- The location of a part of a directory. -/
def enter (p : Path) (part : String) : Path :=
  if part = ".." then up p else { p with parts := p.parts ++ [part] }

variable (files : Files)

/-- The location that some parts lead to from a location. -/
def walk : List String → Path → Except PathFault Path
  | [], p => .ok p
  | part :: parts, p =>
    match files.nodeAt p with
    | none => .error .notFound
    | some (.file _) => .error .notDirectory
    | some .directory =>
      if 255 < part.utf8ByteSize then .error .nameTooLong else walk parts (enter p part)

/-- The location that a path leads to. -/
def locate (p : Path) : Except PathFault Path :=
  if 4095 < p.text.utf8ByteSize then .error .nameTooLong
  else files.walk p.parts ⟨if p.root = .relative then .relative else .slash, []⟩

/-- What lies at the end of a path. -/
def find (p : Path) : Except PathFault FileNode := do
  match files.nodeAt (← files.locate p) with
  | some n => return n
  | none => throw .notFound

/-- Whether a path holds a NUL character, which no path of a file does. -/
def hasNul (p : Path) : Bool :=
  p.parts.any (·.toList.contains '\x00')

/-- An outcome with its fault blamed on a path. -/
def blame {α : Type} (path : String) (x : Except PathFault α) : Except FileError α :=
  x.mapError fun f => .fault f path

/-- An operation on a path, which may not hold a NUL character. -/
def withPath {α : Type} (p : Path) (x : Except PathFault α) : Except FileError α :=
  if hasNul p then .error .nulInPath else blame p.text x

/-- Whether anything lies at the end of a path. -/
def contains (p : Path) : Except FileError Bool :=
  if hasNul p then .ok false
  else match files.find p with
    | .ok _ => .ok true
    | .error .nameTooLong => .error (.fault .nameTooLong p.text)
    | .error _ => .ok false

/-- Anything has to lie at the end of a path; `what` says what it is. -/
def require (p : Path) (what : String) : Except FileError Unit := do
  if !(← files.contains p) then throw (.missing what p.text)

theorem require_eq (p : Path) (what : String) :
    files.require p what = match files.contains p with
      | .ok true => .ok ()
      | .ok false => .error (.missing what p.text)
      | .error e => .error e := by
  rw [require]
  cases files.contains p with
  | error e => rfl
  | ok isThere => cases isThere <;> rfl

/-- Whether a directory lies at the end of a path. -/
def isDirectory (p : Path) : Bool :=
  match files.find p with
  | .ok .directory => true
  | _ => false

/-! ### Reading -/

/-- The content of the file at the end of a path. -/
def read (p : Path) : Except FileError Content :=
  withPath p do
    match ← files.find p with
    | .file c => return c
    | .directory => throw .isDirectory

/-- The text of the file at the end of a path, with its line ends made alike. -/
def readLines (p : Path) : Except FileError String := do
  match (← files.read p).lines? with
  | some s => return s
  | none => throw .notText

/-! ### Changing -/

/-- The location at the end of a path where a file may be written. -/
def locateFile (p : Path) : Except PathFault Path := do
  let l ← files.locate p
  if files.nodeAt l = some .directory then throw .isDirectory
  return l

/-- The store with a file written at the end of a path. -/
def write (p : Path) (text : String) : Except FileError Files := do
  let l ← withPath p (files.locateFile p)
  return files.put l (.file (.text text))

/-- The content at a location, empty if nothing lies there. -/
def contentAt (l : Path) : Content :=
  match files.nodeAt l with
  | some (.file c) => c
  | _ => .text ""

/-- The store with a text added to the file at a location. -/
def append (l : Path) (text : String) : Files :=
  files.put l (.file ((files.contentAt l).append text))

/-- The store with a new directory at the end of a path. -/
def makeDir (p : Path) : Except PathFault Files := do
  let l ← files.locate p
  if (files.nodeAt l).isSome then throw .alreadyThere
  return files.put l .directory

/-- The store with the first `n` parts of a path made directories where nothing lies yet, and
the fault that stopped this. -/
def makeDirsTo (p : Path) : Nat → Files × Except FileError Unit
  | 0 => (files, .ok ())
  | n + 1 =>
    let q : Path := { p with parts := p.parts.take (n + 1) }
    let settle (files : Files) (f : PathFault) : Files × Except FileError Unit :=
      (files, if files.isDirectory q then .ok () else .error (.fault f q.text))
    match files.makeDir q with
    | .ok files => (files, .ok ())
    | .error .notFound =>
      match makeDirsTo p n with
      | (files, .error e) => (files, .error e)
      | (files, .ok ()) =>
        match files.makeDir q with
        | .ok files => (files, .ok ())
        | .error f => settle files f
    | .error f => settle files f

/-- The store with a path made a directory, and its parents too. -/
def makeDirs (p : Path) : Files × Except FileError Unit :=
  if hasNul p then (files, .error .nulInPath) else files.makeDirsTo p p.parts.length

end Files

end CryptoAudit
