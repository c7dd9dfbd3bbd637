/-!
# Paths

A path is a root and a list of parts. Empty parts and parts that are a single dot are dropped
when a text is read, and a part of two dots is kept. Exactly two slashes at the start are a root
of their own; any other positive number of them is the same as one.

## Main definitions

* `Path`: a root and the parts after it
* `Path.ofText`, `Path.text`: reading and writing
* `Path.name`, `Path.stem`, `Path.suffix`, `Path.parent`: the pieces of a path
* `Path.join`: one path below another
-/

namespace CryptoAudit

/-- Where a path starts. -/
inductive Root where
  | relative
  | slash
  | doubleSlash
deriving DecidableEq, Repr, Inhabited

/-- A path of the file store. -/
structure Path where
  /-- Where the path starts. -/
  root : Root
  /-- The names on the way, outermost first. -/
  parts : List String
deriving DecidableEq, Repr, Inhabited

namespace Path

/-- The pieces of a list of characters between slashes. -/
def splitSlashes : List Char → List (List Char)
  | [] => [[]]
  | '/' :: cs => [] :: splitSlashes cs
  | c :: cs =>
    match splitSlashes cs with
    | [] => [[c]]
    | piece :: pieces => (c :: piece) :: pieces

/-- The root that a number of leading slashes stands for. -/
def rootOf : Nat → Root
  | 0 => .relative
  | 2 => .doubleSlash
  | _ => .slash

/-- The path that a text denotes. -/
def ofText (s : String) : Path :=
  let cs := s.toList
  let pieces := (splitSlashes cs).filter fun piece => !piece.isEmpty && piece != ['.']
  ⟨rootOf (cs.takeWhile (· = '/')).length, pieces.map String.ofList⟩

/-- The text of a root. -/
def rootText : Root → String
  | .relative => ""
  | .slash => "/"
  | .doubleSlash => "//"

/-- The text of a path; the empty relative path is a single dot. -/
def text (p : Path) : String :=
  if p.root = .relative && p.parts.isEmpty then "."
  else rootText p.root ++ String.intercalate "/" p.parts

/-- The last part, or the empty text. -/
def name (p : Path) : String :=
  p.parts.getLast?.getD ""

/-- A name split before its last dot, unless that dot is at either end of the name. -/
def splitName (cs : List Char) : List Char × List Char :=
  let after := (cs.reverse.takeWhile (· ≠ '.')).reverse
  let before := cs.take (cs.length - (after.length + 1))
  if after.isEmpty || before.isEmpty || after.length = cs.length then (cs, [])
  else (before, '.' :: after)

/-- The name without its suffix. -/
def stem (p : Path) : String :=
  String.ofList (splitName p.name.toList).1

/-- The last dot of the name with what follows it, or the empty text. -/
def suffix (p : Path) : String :=
  String.ofList (splitName p.name.toList).2

/-- The path without its last part. -/
def parent (p : Path) : Path :=
  { p with parts := p.parts.dropLast }

/-- The path `q` below `p`; a rooted `q` stands for itself. -/
def join (p q : Path) : Path :=
  if q.root = .relative then { p with parts := p.parts ++ q.parts } else q

/-- The path of a file in a directory. -/
def child (p : Path) (file : String) : Path :=
  p.join (ofText file)

example : (ofText "a//b/./c/").text = "a/b/c" := by decide +kernel
example : (ofText "").text = "." := by decide +kernel
example : ((ofText "///x").text, (ofText "//x").text) = ("/x", "//x") := by decide +kernel
example : ((ofText "t.csv.").suffix, (ofText ".csv").stem) = ("", ".csv") := by decide +kernel
example : ((ofText "a.b.csv").stem, (ofText "..csv").suffix) = ("a.b", ".csv") := by
  decide +kernel

end Path

end CryptoAudit
