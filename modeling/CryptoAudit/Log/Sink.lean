import CryptoAudit.Files.Store
import CryptoAudit.Log.Record

/-!
# Log files

A log file that a line would make too large is set aside first: earlier files that were set aside
move on by one number, the last of them is lost, and the line starts a new file.

## Main definitions

* `Sink`: a log file with its limits
* `Files.rollOver`: the store with a log file set aside
* `Sink.write`: the store with a line added to a log file
-/

namespace CryptoAudit

namespace Files

/-- The location of a file that was set aside. -/
def backup (l : Path) (i : Nat) : Path :=
  { l with parts := l.parts.dropLast ++ [l.name ++ "." ++ decimal i] }

/-- The store with the node at a location moved to another, if there is one. -/
def move (files : Files) (source target : Path) : Files :=
  match files.nodeAt source with
  | none => files
  | some n => (files.drop source).put target n

/-- The store with the files set aside before moved on by one number, from the given one down. -/
def shiftBackups (files : Files) (l : Path) : Nat → Files
  | 0 => files
  | i + 1 => (files.move (backup l (i + 1)) (backup l (i + 2))).shiftBackups l i

/-- The store with a log file set aside, where at most `count` such files are kept. -/
def rollOver (files : Files) (l : Path) (count : Nat) : Files :=
  ((files.shiftBackups l (count - 1)).move l (backup l 1)).put l (.file (.text ""))

end Files

namespace Log

/-- A log file with its limits. -/
structure Sink where
  location : Path
  level : Level
  /-- The number of bytes at which the file is set aside; none if it is not positive. -/
  maxBytes : Int
  /-- The number of files that are kept aside. -/
  backups : Int
deriving DecidableEq, Repr, Inhabited

namespace Sink

/-- Whether a line would make the file too large. Its own size is counted in characters. -/
def isFull (sink : Sink) (files : Files) (line : String) : Bool :=
  0 < sink.maxBytes &&
    sink.maxBytes ≤ Int.ofNat ((files.contentAt sink.location).size + line.length)

/-- The store with a line added to the file. -/
def write (sink : Sink) (files : Files) (line : String) : Files :=
  let files :=
    if sink.isFull files line && 0 < sink.backups then
      files.rollOver sink.location sink.backups.toNat
    else files
  files.append sink.location line

end Sink

end Log

end CryptoAudit
