/-!
# Comma-separated text

A text is a list of records, one to a line, and a record a list of cells between commas. A line
ends with a line feed, a carriage return or both. A cell that begins with a quote goes on to the
next single quote, past commas and line ends; a doubled quote stands for one. Lines of spaces and
tabs only are passed over.

## Main definitions

* `Csv.cell`: the cell that comes next
* `Csv.record`: the record that comes next
* `Csv.records`: the records of a text, each with the number of its line
-/

namespace CryptoAudit.Csv

/-- Whether a character ends a cell without quotes. -/
def endsCell (c : Char) : Bool :=
  c == ',' || c == '\n' || c == '\r'

/-- The text after an opening quote up to the closing one, and the rest, if there is a closing
one. -/
def quotedPart : List Char → Option (List Char × List Char)
  | [] => none
  | '"' :: '"' :: cs => (quotedPart cs).map fun (cell, rest) => ('"' :: cell, rest)
  | '"' :: cs => some ([], cs)
  | c :: cs => (quotedPart cs).map fun (cell, rest) => (c :: cell, rest)

/-- The text up to the end of a cell, and the rest. -/
def plainPart (cs : List Char) : List Char × List Char :=
  (cs.takeWhile fun c => !endsCell c, cs.dropWhile fun c => !endsCell c)

/-- The cell that comes next, and the rest, unless a quote is left open. What follows a closing
quote belongs to the cell as it is. -/
def cell (cs : List Char) : Option (List Char × List Char) :=
  match cs with
  | '"' :: cs => do
    let (quoted, rest) ← quotedPart cs
    let (plain, rest) := plainPart rest
    return (quoted ++ plain, rest)
  | cs => some (plainPart cs)

/-- How a line ends. -/
inductive LineEnd where
  | feed
  | return
  | none
deriving DecidableEq, Repr

/-- The end of the line that comes next, and the rest. -/
def lineEnd : List Char → LineEnd × List Char
  | '\n' :: cs => (.feed, cs)
  | '\r' :: '\n' :: cs => (.feed, cs)
  | '\r' :: cs => (.return, cs)
  | cs => (.none, cs)

/-- The cells of a record, and what follows them, unless a quote is left open. -/
def record : Nat → List Char → Option (List String × List Char)
  | 0, cs => some ([], cs)
  | fuel + 1, cs => do
    let (c, rest) ← cell cs
    match rest with
    | ',' :: rest =>
      let (cells, rest) ← record fuel rest
      return (String.ofList c :: cells, rest)
    | rest => return ([String.ofList c], rest)

/-- What a text consists of: numbered records, up to the end or up to a quote that is left open
on the line with the given number. -/
structure Records where
  records : List (Nat × List String)
  open? : Option Nat
deriving Repr

/-- Whether a character is a space or a tab. -/
def isSpace (c : Char) : Bool :=
  c == ' ' || c == '\t'

/-- The records from a place on, where `line` lines were read before. A line that starts with a
space and is not blank is read from `mark`: the place after the last line feed or the last
record, whichever came later. -/
def recordsFrom : Nat → Nat → List Char → List Char → Records
  | 0, _, _, _ => ⟨[], none⟩
  | fuel + 1, line, mark, cs =>
    let body := cs.dropWhile isSpace
    match body, lineEnd body with
    | [], _ => ⟨[], none⟩
    | _, (.feed, rest) => recordsFrom fuel (line + 1) rest rest
    | _, (.return, rest) => recordsFrom fuel (line + 1) mark rest
    | _, (.none, _) =>
      let start := if cs.head?.any isSpace then mark else cs
      match record (start.length + 1) start with
      | none => ⟨[], some line⟩
      | some (cells, rest) =>
        let rest := (lineEnd rest).2
        let more := recordsFrom fuel (line + 1) rest rest
        ⟨(line + 1, cells) :: more.records, more.open?⟩

/-- The records of a text, without a byte-order mark at its start. -/
def records (s : String) : Records :=
  let cs := match s.toList with
    | '\uFEFF' :: cs => cs
    | cs => cs
  recordsFrom ((cs.length + 1) * (cs.length + 1)) 0 cs cs

end CryptoAudit.Csv
