import CryptoAudit.Environment.Quoted
import CryptoAudit.Text.Blank

/-!
# Statements of environment files

An environment file is a sequence of statements. A statement binds a key, with or without a value,
and ends with its line; a quoted key or value may go on past line ends. A value without quotes
ends before the first blanks that have a `#` after them. A statement that breaks the rules is
passed over up to the end of the line where it breaks them.

## Main definitions

* `Statement`: what a statement says
* `statement`: the statement at the start of a text
* `statements`: the statements of a text

## Main results

* `length_statement`: a statement is never empty
-/

namespace CryptoAudit.Environment

open Text (isBlank)

/-- What a statement says. -/
inductive Statement where
  /-- A key is bound, perhaps without a value. -/
  | binding (key : String) (value : Option String)
  /-- Nothing is left of the text but blanks, or the statement is a comment. -/
  | nothing
  /-- The rules are broken by the statement that starts in a line with this number. -/
  | unreadable (line : Nat)
deriving DecidableEq, Repr, Inhabited

/-- Whether a character is blank and does not end a line. -/
def isSpace (c : Char) : Bool :=
  isBlank c && c != '\n'

/-- What follows the end of the line. -/
def skipLine (cs : List Char) : List Char :=
  (cs.dropWhile (· != '\n')).tail

/-! ### Statements -/

/-- The text after a leading `export` that stands as a word of its own. -/
def afterExport (cs : List Char) : List Char :=
  let rest := cs.drop 6
  if cs.take 6 = "export".toList && rest.head?.any isSpace then rest.dropWhile isSpace else cs

/-- Whether a character may stand in a key without quotes. -/
def isKeyChar (c : Char) : Bool :=
  c != '=' && c != '#' && !isBlank c

/-- The key that comes next, which is not empty, and the rest. It stands between single quotes or
has no quotes. -/
def key (cs : List Char) : Option (String × List Char) :=
  match cs with
  | '\'' :: inner =>
    match inner.takeWhile (· != '\''), inner.dropWhile (· != '\'') with
    | c :: name, _ :: rest => some (String.ofList (c :: name), rest)
    | _, _ => none
  | cs =>
    if (cs.takeWhile isKeyChar).isEmpty then none
    else some (String.ofList (cs.takeWhile isKeyChar), cs.dropWhile isKeyChar)

/-- The text before the first blanks that have a `#` after them. -/
def beforeComment : List Char → List Char
  | [] => []
  | c :: cs =>
    if isBlank c && (cs.dropWhile isBlank).head? = some '#' then [] else c :: beforeComment cs

/-- The value in the rest of a line. -/
def plainValue (line : List Char) : String :=
  String.ofList (Text.stripEnd (beforeComment line))

/-- The value that comes next, and the rest. -/
def value (cs : List Char) : Option (String × List Char) :=
  match cs with
  | [] => some ("", [])
  | c :: inner =>
    if c = '\'' || c = '"' then
      let escapes := if c = '"' then doubleEscapes else singleEscapes
      (quotedPart c inner).map fun (text, rest) => (String.ofList (unescape escapes text), rest)
    else some (plainValue (cs.takeWhile (· != '\n')), cs.dropWhile (· != '\n'))

/-- The text after the end of the line, before which there may be a comment. -/
def lineEnd (cs : List Char) : Option (List Char) :=
  match cs.dropWhile isSpace with
  | [] => some []
  | '#' :: rest => some (skipLine rest)
  | '\n' :: rest => some rest
  | _ => none

/-- What a text says up to the end of its first statement, if that statement keeps to the rules,
and what is left; or else what is left where it breaks them. -/
def binding (cs : List Char) : Option Statement × List Char :=
  match key cs with
  | none => (none, cs)
  | some (k, rest) =>
    match rest.dropWhile isSpace with
    | '=' :: rest =>
      match value (rest.dropWhile isSpace) with
      | none => (none, rest)
      | some (v, rest) => finish (.binding k (some v)) rest
    | rest => finish (.binding k none) rest
where
  /-- The end of the line has to come next. -/
  finish (s : Statement) (rest : List Char) : Option Statement × List Char :=
    match lineEnd rest with
    | some rest => (some s, rest)
    | none => (none, rest)

/-- The statement at the start of a text, whose first line has the given number, and the rest. -/
def statement (line : Nat) (cs : List Char) : Statement × List Char :=
  match afterExport (cs.dropWhile isBlank) with
  | [] => (if cs.all isBlank then .nothing else .unreadable line, [])
  | '#' :: rest => (.nothing, skipLine rest)
  | body =>
    match binding body with
    | (some s, rest) => (s, rest)
    | (none, left) => (.unreadable line, skipLine left)

/-! ### Progress -/

theorem length_dropWhile_le (p : Char → Bool) (cs : List Char) :
    (cs.dropWhile p).length ≤ cs.length :=
  (List.dropWhile_suffix p).length_le

theorem length_skipLine_le (cs : List Char) : (skipLine cs).length ≤ cs.length := by
  have := length_dropWhile_le (· != '\n') cs
  simp only [skipLine, List.length_tail]
  omega

theorem length_skipLine_lt {cs : List Char} (h : cs ≠ []) :
    (skipLine cs).length < cs.length := by
  have := length_dropWhile_le (· != '\n') cs
  have := List.length_pos_iff.2 h
  simp only [skipLine, List.length_tail]
  omega

theorem length_afterExport_le (cs : List Char) : (afterExport cs).length ≤ cs.length := by
  have := length_dropWhile_le isSpace (cs.drop 6)
  simp only [afterExport]
  split
  · simp only [List.length_drop] at this
    omega
  · exact Nat.le_refl _

theorem length_key {cs rest : List Char} {k : String} (h : key cs = some (k, rest)) :
    rest.length < cs.length := by
  unfold key at h
  split at h
  · rename_i inner
    split at h
    · rename_i hrest
      have := length_dropWhile_le (· != '\'') inner
      simp only [hrest, List.length_cons, Option.some.injEq, Prod.mk.injEq] at this h ⊢
      rw [← h.2]
      omega
    · simp at h
  · split at h
    · simp at h
    · rename_i hne
      simp only [Option.some.injEq, Prod.mk.injEq] at h
      have hsplit : (cs.takeWhile isKeyChar ++ cs.dropWhile isKeyChar).length = cs.length := by
        rw [List.takeWhile_append_dropWhile]
      rw [List.length_append, h.2] at hsplit
      have : (cs.takeWhile isKeyChar).length ≠ 0 := by simpa using hne
      omega

theorem length_value {cs rest : List Char} {v : String} (h : value cs = some (v, rest)) :
    rest.length ≤ cs.length := by
  unfold value at h
  split at h
  · simp_all
  · split at h
    · obtain ⟨⟨text, rest'⟩, hr, hrest⟩ := Option.map_eq_some_iff.1 h
      have := length_quotedPart hr
      simp only [Prod.mk.injEq] at hrest
      simp only [List.length_cons, ← hrest.2]
      omega
    · simp only [Option.some.injEq, Prod.mk.injEq] at h
      rw [← h.2]
      exact length_dropWhile_le _ _

theorem length_lineEnd {cs rest : List Char} (h : lineEnd cs = some rest) :
    rest.length ≤ cs.length := by
  have hle := length_dropWhile_le isSpace cs
  unfold lineEnd at h
  split at h
  · simp_all
  · rename_i r hr
    have := length_skipLine_le r
    simp only [hr, List.length_cons, Option.some.injEq] at hle h
    rw [← h]
    omega
  · rename_i r hr
    simp only [hr, List.length_cons, Option.some.injEq] at hle h
    rw [← h]
    omega
  · simp at h

theorem length_finish (s : Statement) (rest : List Char) :
    (binding.finish s rest).2.length ≤ rest.length := by
  unfold binding.finish
  split
  · rename_i h
    exact length_lineEnd h
  · exact Nat.le_refl _

theorem length_binding {cs rest : List Char} {s : Option Statement}
    (h : binding cs = (s, rest)) : rest.length < cs.length ∨ s = none ∧ rest = cs := by
  unfold binding at h
  split at h
  · simp_all
  · rename_i k rest₁ hk
    have h₁ := length_key hk
    have h₂ := length_dropWhile_le isSpace rest₁
    refine .inl ?_
    split at h
    · rename_i rest₂ hr
      have h₃ := length_dropWhile_le isSpace rest₂
      simp only [hr, List.length_cons] at h₂
      split at h
      · simp only [Prod.mk.injEq] at h
        rw [← h.2]
        omega
      · rename_i v rest₃ hv
        have h₄ := length_value hv
        have h₅ := length_finish (.binding k (some v)) rest₃
        rw [h] at h₅
        simp only at h₅
        omega
    · have h₅ := length_finish (.binding k none) (rest₁.dropWhile isSpace)
      rw [h] at h₅
      simp only at h₅
      omega

theorem length_statement (line : Nat) {cs : List Char} (h : cs ≠ []) :
    (statement line cs).2.length < cs.length := by
  have hle : (afterExport (cs.dropWhile isBlank)).length ≤ cs.length :=
    Nat.le_trans (length_afterExport_le _) (length_dropWhile_le _ _)
  unfold statement
  split
  · exact List.length_pos_iff.2 h
  · rename_i rest hrest
    have := length_skipLine_le rest
    simp only [hrest, List.length_cons] at hle ⊢
    omega
  · rename_i hne _
    split
    · rename_i s rest hb
      rcases length_binding hb with hlt | ⟨hs, _⟩
      · simp only
        omega
      · simp at hs
    · rename_i left hb
      simp only
      rcases length_binding hb with hlt | ⟨_, heq⟩
      · have := length_skipLine_le left
        omega
      · have := length_skipLine_lt hne
        rw [heq]
        omega

/-! ### Texts -/

/-- The number of line ends in a text. -/
def lineEnds (cs : List Char) : Nat :=
  cs.count '\n'

/-- The statements of a text whose first line has the given number. -/
def statementsFrom (line : Nat) (cs : List Char) : List Statement :=
  match cs with
  | [] => []
  | c :: cs =>
    let rest := (statement line (c :: cs)).2
    (statement line (c :: cs)).1 ::
      statementsFrom (line + (lineEnds (c :: cs) - lineEnds rest)) rest
termination_by cs.length
decreasing_by exact length_statement line (List.cons_ne_nil c cs)

/-- The statements of a text. -/
def statements (text : String) : List Statement :=
  statementsFrom 1 text.toList

example : statements "A=1 # x\n export 'b c' = \"d\\n\"\nC" =
    [.binding "A" (some "1"), .binding "b c" (some "d\n"), .binding "C" none] := by decide +kernel
example : statements "\nA B\nC='x\n" = [.unreadable 1, .unreadable 3] := by decide +kernel

end CryptoAudit.Environment
