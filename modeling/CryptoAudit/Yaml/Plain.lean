import CryptoAudit.Yaml.Token

/-!
# Plain scalars of YAML

A scalar without quotes ends at a comment, at a colon before a blank and, inside brackets, at the
characters of the brackets. It may run over several lines that are indented deeply enough.

## Main definitions

* `startsPlain`: whether a plain scalar comes next
* `plainScalar`: a plain scalar
-/

namespace CryptoAudit.Yaml

/-- Whether a plain scalar may start here. -/
def startsPlain (inFlow : Bool) (c : Cursor) : Bool :=
  let x := c.peek
  !(isBlankOrEnd x || isOneOf "-?:,[]\x7b\x7d#&*!|>'\"%@\x60" x) ||
    (!isBlankOrEnd (c.peekAt 1) && (x == '-' || (!inFlow && (x == '?' || x == ':'))))

/-- The characters of a plain scalar up to a blank or an indicator that ends it. -/
def plainRun (inFlow : Bool) : List Char → List Char
  | [] => []
  | x :: rest =>
    let next := rest.headD endMark
    let ends := isBlankOrEnd x ||
      (x == ':' && (isBlankOrEnd next || (inFlow && isOneOf ",[]\x7b\x7d" next))) ||
      (inFlow && isOneOf ",?[]\x7b\x7d" x)
    if ends then [] else x :: plainRun inFlow rest

/-- What stands between two lines of a plain scalar. -/
inductive Gap where
  | none
  | separator
  | text (cs : List Char)

/-- The empty lines inside a plain scalar, unless a document marker comes. -/
def plainBreaks : Nat → Cursor → Option (List Char) × Cursor
  | 0, c => (some [], c)
  | fuel + 1, c =>
    if c.peek = ' ' then plainBreaks fuel c.step
    else if isBreak c.peek then
      let (b, c) := c.lineBreak
      if c.atSeparator then (none, c)
      else
        let (bs, c) := plainBreaks fuel c
        (bs.map (b ++ ·), c)
    else (some [], c)

/-- The spaces and line breaks after a run of a plain scalar, and whether a line was ended. -/
def plainGap (c : Cursor) : Gap × Bool × Cursor :=
  let (blanks, c) := c.span (· == ' ')
  if isBreak c.peek then
    let (b, c) := c.lineBreak
    if c.atSeparator then (.separator, true, c)
    else
      match plainBreaks c.fuel c with
      | (none, c) => (.separator, true, c)
      | (some bs, c) =>
        let first := if b ≠ ['\n'] then b else if bs.isEmpty then [' '] else []
        (.text (first ++ bs), true, c)
  else if blanks.isEmpty then (.none, false, c)
  else (.text blanks, false, c)

/-- The rest of a plain scalar, with `gap` before its next run, and whether it ends with the
break of a line. -/
def plainRest (inFlow : Bool) (indent : Int) :
    Nat → List Char → Bool → Cursor → List Char × Bool × Cursor
  | 0, _, broken, c => ([], broken, c)
  | fuel + 1, gap, broken, c =>
    let run := plainRun inFlow c.rest
    if c.peek = '#' || run.isEmpty then ([], broken, c)
    else
      let (next, broken, c) := plainGap (c.advance run.length)
      match next with
      | .text more =>
        if c.peek = '#' || (!inFlow && (c.column : Int) < indent) then (gap ++ run, broken, c)
        else
          let (rest, broken, c) := plainRest inFlow indent fuel more broken c
          (gap ++ run ++ rest, broken, c)
      | _ => (gap ++ run, broken, c)

/-- A plain scalar below the given indentation, and whether it ends with the break of a line. -/
def plainScalar (inFlow : Bool) (parentIndent : Int) (c : Cursor) : Token × Bool × Cursor :=
  let (cs, broken, c) := plainRest inFlow (parentIndent + 1) c.fuel [] false c
  (.scalar (String.ofList cs) true, broken, c)

end CryptoAudit.Yaml
