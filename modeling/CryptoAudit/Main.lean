import CryptoAudit.Command.Run
import Std.Time.Zoned

/-!
# The program

The program is run on the files and directories below the working directory.

## Main definitions

* `main`: the program
-/

namespace CryptoAudit.Command

/-- The time on the clock. -/
def currentMoment : IO Moment := do
  let now ← Std.Time.PlainDateTime.now
  let date : Date :=
    ⟨now.date.year.toInt.toNat, now.date.month.val.toNat, now.date.day.val.toNat⟩
  return ⟨date, now.time.hour.val.toNat, now.time.minute.val.toNat, now.time.second.val.toNat,
    now.time.nanosecond.val.toNat / 1000, none⟩

/-- The variables of the process, as far as the system shows them. -/
def currentEnvironment : IO Environment := do
  let text ← try IO.FS.readFile "/proc/self/environ" catch _ => pure ""
  return (text.splitOn "\x00").filterMap fun entry => match entry.splitOn "=" with
    | name :: first :: more => some (name, String.intercalate "=" (first :: more))
    | _ => none

/-- What lies at an entry of a directory, and below it. -/
partial def nodesBelow (entry : IO.FS.DirEntry) (location : Path) :
    IO (List (Path × FileNode)) := do
  if ← entry.path.isDir then
    let entries ← entry.path.readDir
    let below ← entries.toList.mapM fun e => nodesBelow e (location.child e.fileName)
    return (location, .directory) :: below.flatten
  else
    let bytes ← IO.FS.readBinFile entry.path
    return [(location, .file (.ofBytes bytes.toList))]

/-- The files and directories below the working directory. -/
def currentFiles : IO Files := do
  return ⟨(← nodesBelow ⟨← IO.currentDir, "."⟩ (Path.ofText ".")).tail⟩

/-- Put a node at the end of a path. -/
def writeNode (path : String) : FileNode → IO Unit
  | .directory => IO.FS.createDirAll path
  | .file (.text s) => IO.FS.writeFile path s
  | .file (.binary bytes) => IO.FS.writeBinFile path ⟨bytes.toArray⟩

/-- Put what has changed where it belongs. -/
def writeChanges (old new : Files) : IO Unit := do
  for (path, node) in new.nodes do
    if old.nodeAt path != some node then writeNode path.text node
  for (path, _) in old.nodes do
    if (new.nodeAt path).isNone then IO.FS.removeFile path.text

end CryptoAudit.Command

open CryptoAudit CryptoAudit.Command in
/-- The program. A failure is told on the console and ends it with the exit code one. -/
def main (words : List String) : IO UInt32 := do
  let files ← currentFiles
  let result := run (← currentMoment) files (← currentEnvironment) words
  writeChanges files result.files
  IO.print result.output
  IO.eprint result.console
  match result.exit with
  | .ok code => return UInt32.ofNat code
  | .error failure =>
    IO.eprintln failure.message
    return 1
