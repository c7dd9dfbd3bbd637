import CryptoAudit.Number.Read
import CryptoAudit.Proofs.Text.Quoted
import CryptoAudit.Value.Basic

/-!
# The grammar of JSON

The grammar of RFC 8259 as a relation between a text, the value at its start and what follows that
value. Blanks may stand in front of a value and of each structural character. A number or one of
the three named constants extends as far as its characters do. A text may hold any character but
the quote, the backslash and the control characters below the space, and it may hold any character
as an escape; a character outside the first plane is then escaped in two halves. Members of an
object stay in their order, and a name may occur more than once.

## Main definitions

* `wordValue?`: the values of numbers and named constants
* `readChar?`, `ReadsChars`: the characters between quotes
* `Reads`: the grammar
* `IsText`: a whole text denotes a value

## Main results

* `Reads.unique`: the grammar is not ambiguous
* `IsText.unique`: a text denotes at most one value
-/

namespace CryptoAudit.Json

/-! ### Blanks -/

/-- Whether a character may stand around values. -/
def isSpace (c : Char) : Bool :=
  c = ' ' || c = '\t' || c = '\n' || c = '\r'

/-- What follows the blanks at the start of a text. -/
def skipSpace (cs : List Char) : List Char :=
  cs.dropWhile isSpace

theorem skipSpace_cons_of_isSpace {c : Char} (h : isSpace c = true) (cs : List Char) :
    skipSpace (c :: cs) = skipSpace cs :=
  List.dropWhile_cons_of_pos h

theorem skipSpace_cons_of_not {c : Char} (h : isSpace c = false) (cs : List Char) :
    skipSpace (c :: cs) = c :: cs :=
  List.dropWhile_cons_of_neg (Bool.eq_false_iff.1 h)

/-! ### Numbers and named constants -/

/-- Whether a character may stand in a number or a named constant. -/
def isWordChar (c : Char) : Bool :=
  c.isAlphanum || c = '-' || c = '+' || c = '.'

/-- A minus sign in front of a number: whether it is there, and what follows it. -/
def splitMinus (cs : List Char) : Bool × List Char :=
  match cs with
  | '-' :: cs => (true, cs)
  | cs => (false, cs)

/-- The value of a number: an integer, unless there is a fraction or an exponent. The integer part
has no zero in front of other digits, and a point has a digit behind it. -/
def numberValue? (cs : List Char) : Option Value :=
  let (negative, unsigned) := splitMinus cs
  let whole := unsigned.takeWhile isDigit
  if whole.isEmpty || (whole.head? = some '0' && whole.length ≠ 1) then none
  else match unsigned.dropWhile isDigit with
    | [] =>
      let n := Int.ofNat (natOfDigits whole)
      some (.int (if negative then -n else n))
    | '.' :: fraction =>
      if (fraction.takeWhile isDigit).isEmpty then none
      else (Binary64.readUnsigned? negative unsigned).map .float
    | _ => (Binary64.readUnsigned? negative unsigned).map .float

/-- The named constants. -/
def constants : List (String × Value) :=
  [("null", .null), ("true", .bool true), ("false", .bool false)]

/-- The value of a number or a named constant. -/
def wordValue? (word : List Char) : Option Value :=
  (numberValue? word).or (constants.lookup (String.ofList word))

/-! ### Texts -/

/-- The character that an escape of one letter stands for. -/
def escaped? (c : Char) : Option Char :=
  match c with
  | '"' => some '"'
  | '\\' => some '\\'
  | '/' => some '/'
  | 'b' => some '\x08'
  | 'f' => some '\x0c'
  | 'n' => some '\n'
  | 'r' => some '\r'
  | 't' => some '\t'
  | _ => none

/-- The second half of a character that is escaped in two, after the first half `high`. -/
def readLowHalf? (high : Nat) (cs : List Char) : Option (Char × List Char) :=
  match cs with
  | '\\' :: 'u' :: cs => do
    let (low, rest) ← Text.readHex? 4 cs
    if 0xDC00 ≤ low && low < 0xE000 then
      some (Char.ofNat (0x10000 + 0x400 * (high - 0xD800) + (low - 0xDC00)), rest)
    else none
  | _ => none

/-- A character escaped by its code point. -/
def readCode? (cs : List Char) : Option (Char × List Char) := do
  let (n, rest) ← Text.readHex? 4 cs
  if n < 0xD800 || 0xE000 ≤ n then some (Char.ofNat n, rest)
  else if n < 0xDC00 then readLowHalf? n rest
  else none

/-- A character between quotes, and what follows it. -/
def readChar? (cs : List Char) : Option (Char × List Char) :=
  match cs with
  | [] => none
  | '\\' :: 'u' :: cs => readCode? cs
  | '\\' :: c :: cs => (escaped? c).map (·, cs)
  | c :: cs => if c.toNat < 0x20 || c = '"' || c = '\\' then none else some (c, cs)

/-- `ReadsChars cs input rest`: the characters up to the closing quote are `cs`, and `rest` follows
that quote. -/
inductive ReadsChars : List Char → List Char → List Char → Prop
  | close {rest : List Char} : ReadsChars [] ('"' :: rest) rest
  | char {c : Char} {cs input mid rest : List Char} (first : readChar? input = some (c, mid))
      (others : ReadsChars cs mid rest) : ReadsChars (c :: cs) input rest

theorem ReadsChars.unique {cs ds input rest rest' : List Char} (h : ReadsChars cs input rest)
    (h' : ReadsChars ds input rest') : cs = ds ∧ rest = rest' := by
  induction h generalizing ds with
  | close =>
    cases h' with
    | close => exact ⟨rfl, rfl⟩
    | char first => cases first
  | char first others ih =>
    cases h' with
    | close => cases first
    | char first' others' =>
      rw [first] at first'
      obtain ⟨rfl, rfl⟩ := Prod.mk.inj (Option.some.inj first')
      obtain ⟨rfl, rfl⟩ := ih others'
      exact ⟨rfl, rfl⟩

/-! ### Values -/

/-- The parts of a text that the grammar tells apart: a value, a member of an object, and what
follows an item of a list or a member of an object up to the closing bracket. -/
inductive Part where
  | value
  | member
  | moreItems
  | moreMembers
deriving DecidableEq, Repr

/-- `Reads part v input rest`: at the start of `input` there is such a part with the content `v`,
and `rest` follows it. The content of a member is the object that has it alone. -/
inductive Reads : Part → Value → List Char → List Char → Prop
  | space {c : Char} {v : Value} {input rest : List Char} (blank : isSpace c = true)
      (value : Reads .value v input rest) : Reads .value v (c :: input) rest
  | word {v : Value} {input : List Char}
      (value : wordValue? (input.takeWhile isWordChar) = some v) :
      Reads .value v input (input.dropWhile isWordChar)
  | text {cs input rest : List Char} (chars : ReadsChars cs input rest) :
      Reads .value (.text (String.ofList cs)) ('"' :: input) rest
  | emptyList {input rest : List Char} (closed : skipSpace input = ']' :: rest) :
      Reads .value (.list []) ('[' :: input) rest
  | list {v : Value} {vs : List Value} {input mid rest : List Char}
      (first : Reads .value v input mid) (others : Reads .moreItems (.list vs) mid rest) :
      Reads .value (.list (v :: vs)) ('[' :: input) rest
  | emptyMap {input rest : List Char} (closed : skipSpace input = '\x7d' :: rest) :
      Reads .value (.map []) ('\x7b' :: input) rest
  | map {entry : Value × Value} {entries : List (Value × Value)} {input mid rest : List Char}
      (first : Reads .member (.map [entry]) input mid)
      (others : Reads .moreMembers (.map entries) mid rest) :
      Reads .value (.map (entry :: entries)) ('\x7b' :: input) rest
  | member {key : String} {v : Value} {input mid mid' rest : List Char}
      (name : Reads .value (.text key) input mid) (colon : skipSpace mid = ':' :: mid')
      (value : Reads .value v mid' rest) : Reads .member (.map [(.text key, v)]) input rest
  | noItem {input rest : List Char} (closed : skipSpace input = ']' :: rest) :
      Reads .moreItems (.list []) input rest
  | item {v : Value} {vs : List Value} {input mid mid' rest : List Char}
      (comma : skipSpace input = ',' :: mid) (first : Reads .value v mid mid')
      (others : Reads .moreItems (.list vs) mid' rest) :
      Reads .moreItems (.list (v :: vs)) input rest
  | noMember {input rest : List Char} (closed : skipSpace input = '\x7d' :: rest) :
      Reads .moreMembers (.map []) input rest
  | moreMembers {entry : Value × Value} {entries : List (Value × Value)}
      {input mid mid' rest : List Char} (comma : skipSpace input = ',' :: mid)
      (first : Reads .member (.map [entry]) mid mid')
      (others : Reads .moreMembers (.map entries) mid' rest) :
      Reads .moreMembers (.map (entry :: entries)) input rest

/-- A whole text denotes a value if nothing but blanks stands around the value. -/
def IsText (s : String) (v : Value) : Prop :=
  ∃ rest, Reads .value v s.toList rest ∧ skipSpace rest = []

/-! ### The grammar is not ambiguous -/

theorem wordValue?_nil : wordValue? [] = none := by
  decide

theorem isWordChar_of_wordValue? {c : Char} {input : List Char} {v : Value}
    (h : wordValue? ((c :: input).takeWhile isWordChar) = some v) : isWordChar c = true := by
  cases hc : isWordChar c with
  | true => rfl
  | false =>
    rw [List.takeWhile_cons_of_neg (Bool.eq_false_iff.1 hc), wordValue?_nil] at h
    cases h

theorem isSpace_of_isWordChar {c : Char} (h : isWordChar c = true) : isSpace c = false := by
  cases hc : isSpace c with
  | false => rfl
  | true =>
    simp only [isSpace, Bool.or_eq_true, decide_eq_true_eq] at hc
    rcases hc with ((rfl | rfl) | rfl) | rfl <;> cases h

/-- Whether a value may start with a character. -/
def startsValue (c : Char) : Bool :=
  isWordChar c || c = '"' || c = '[' || c = '\x7b'

namespace Reads

theorem exists_start {part : Part} {v : Value} {input rest : List Char}
    (h : Reads part v input rest) (hpart : part = .value) :
    ∃ c more, skipSpace input = c :: more ∧ startsValue c = true := by
  induction h with
  | space blank value ih =>
    rw [skipSpace_cons_of_isSpace blank]
    exact ih rfl
  | @word v input value =>
    cases input with
    | nil =>
      rw [List.takeWhile_nil, wordValue?_nil] at value
      cases value
    | cons c input =>
      have hc := isWordChar_of_wordValue? value
      refine ⟨c, input, skipSpace_cons_of_not (isSpace_of_isWordChar hc) input, ?_⟩
      rw [startsValue, hc]
      rfl
  | text => exact ⟨_, _, rfl, rfl⟩
  | emptyList => exact ⟨_, _, rfl, rfl⟩
  | list => exact ⟨_, _, rfl, rfl⟩
  | emptyMap => exact ⟨_, _, rfl, rfl⟩
  | map => exact ⟨_, _, rfl, rfl⟩
  | member => cases hpart
  | noItem => cases hpart
  | item => cases hpart
  | noMember => cases hpart
  | moreMembers => cases hpart

/-- A value does not start with a closing bracket, so an empty list or object cannot be taken for
one that is not empty. -/
theorem not_closing {v : Value} {input rest more : List Char} {c : Char}
    (h : Reads .value v input rest) (hc : startsValue c = false) : skipSpace input ≠ c :: more := by
  obtain ⟨d, others, hskip, hd⟩ := h.exists_start rfl
  rw [hskip]
  rintro heq
  obtain ⟨rfl, -⟩ := List.cons.inj heq
  rw [hc] at hd
  cases hd

/-! The first character of a value tells which rule has been used for it. -/

section

variable {v : Value} {input rest : List Char}

theorem of_space {c : Char} (hc : isSpace c = true) (h : Reads .value v (c :: input) rest) :
    Reads .value v input rest := by
  cases h with
  | space blank value => exact value
  | word value =>
    rw [isSpace_of_isWordChar (isWordChar_of_wordValue? value)] at hc
    cases hc
  | text => cases hc
  | emptyList => cases hc
  | list => cases hc
  | emptyMap => cases hc
  | map => cases hc

theorem of_word {w : Value} (hw : wordValue? (input.takeWhile isWordChar) = some w)
    (h : Reads .value v input rest) : v = w ∧ rest = input.dropWhile isWordChar := by
  cases h with
  | space blank =>
    rw [isSpace_of_isWordChar (isWordChar_of_wordValue? hw)] at blank
    cases blank
  | word value =>
    rw [hw] at value
    exact ⟨(Option.some.inj value).symm, rfl⟩
  | text => cases isWordChar_of_wordValue? hw
  | emptyList => cases isWordChar_of_wordValue? hw
  | list => cases isWordChar_of_wordValue? hw
  | emptyMap => cases isWordChar_of_wordValue? hw
  | map => cases isWordChar_of_wordValue? hw

theorem of_quote (h : Reads .value v ('"' :: input) rest) :
    ∃ cs, v = .text (String.ofList cs) ∧ ReadsChars cs input rest := by
  cases h with
  | space blank => cases blank
  | word value => cases isWordChar_of_wordValue? value
  | text chars => exact ⟨_, rfl, chars⟩

theorem of_bracket (h : Reads .value v ('[' :: input) rest) :
    (v = .list [] ∧ skipSpace input = ']' :: rest) ∨
    ∃ w vs mid, v = .list (w :: vs) ∧ Reads .value w input mid ∧
      Reads .moreItems (.list vs) mid rest := by
  cases h with
  | space blank => cases blank
  | word value => cases isWordChar_of_wordValue? value
  | emptyList closed => exact .inl ⟨rfl, closed⟩
  | list first others => exact .inr ⟨_, _, _, rfl, first, others⟩

theorem of_brace (h : Reads .value v ('\x7b' :: input) rest) :
    (v = .map [] ∧ skipSpace input = '\x7d' :: rest) ∨
    ∃ entry entries mid, v = .map (entry :: entries) ∧ Reads .member (.map [entry]) input mid ∧
      Reads .moreMembers (.map entries) mid rest := by
  cases h with
  | space blank => cases blank
  | word value => cases isWordChar_of_wordValue? value
  | emptyMap closed => exact .inl ⟨rfl, closed⟩
  | map first others => exact .inr ⟨_, _, _, rfl, first, others⟩

theorem not_closing_of_member (h : Reads .member v input rest) (more : List Char) :
    skipSpace input ≠ '\x7d' :: more := by
  cases h with
  | member name => exact name.not_closing rfl

end

/-- The grammar is not ambiguous: the start of a text is at most one value, with one remainder. -/
theorem unique {part : Part} {v w : Value} {input rest rest' : List Char}
    (h : Reads part v input rest) (h' : Reads part w input rest') : v = w ∧ rest = rest' := by
  -- By induction on one reading. The other one uses the same rule, since the first character or,
  -- behind an item or a member, the next structural character is the same.
  induction h generalizing w rest' with
  | space blank value ih => exact ih (h'.of_space blank)
  | word value =>
    obtain ⟨rfl, rfl⟩ := h'.of_word value
    exact ⟨rfl, rfl⟩
  | text chars =>
    obtain ⟨ds, rfl, chars'⟩ := h'.of_quote
    obtain ⟨rfl, rfl⟩ := chars.unique chars'
    exact ⟨rfl, rfl⟩
  | emptyList closed =>
    rcases h'.of_bracket with ⟨rfl, closed'⟩ | ⟨_, _, _, -, first', -⟩
    · rw [closed] at closed'
      exact ⟨rfl, (List.cons.inj closed').2⟩
    · exact absurd closed (first'.not_closing rfl)
  | list first others ih ihOthers =>
    rcases h'.of_bracket with ⟨-, closed'⟩ | ⟨_, _, _, rfl, first', others'⟩
    · exact absurd closed' (first.not_closing rfl)
    · obtain ⟨rfl, rfl⟩ := ih first'
      obtain ⟨hvs, rfl⟩ := ihOthers others'
      cases hvs
      exact ⟨rfl, rfl⟩
  | emptyMap closed =>
    rcases h'.of_brace with ⟨rfl, closed'⟩ | ⟨_, _, _, -, first', -⟩
    · rw [closed] at closed'
      exact ⟨rfl, (List.cons.inj closed').2⟩
    · exact absurd closed (first'.not_closing_of_member _)
  | map first others ih ihOthers =>
    rcases h'.of_brace with ⟨-, closed'⟩ | ⟨_, _, _, rfl, first', others'⟩
    · exact absurd closed' (first.not_closing_of_member _)
    · obtain ⟨hentry, rfl⟩ := ih first'
      obtain ⟨hentries, rfl⟩ := ihOthers others'
      cases hentry
      cases hentries
      exact ⟨rfl, rfl⟩
  | member name colon value ih ihValue =>
    cases h' with
    | member name' colon' value' =>
      obtain ⟨hkey, rfl⟩ := ih name'
      cases hkey
      rw [colon] at colon'
      obtain ⟨-, rfl⟩ := List.cons.inj colon'
      obtain ⟨rfl, rfl⟩ := ihValue value'
      exact ⟨rfl, rfl⟩
  | noItem closed =>
    cases h' with
    | noItem closed' =>
      rw [closed] at closed'
      exact ⟨rfl, (List.cons.inj closed').2⟩
    | item comma' =>
      rw [closed] at comma'
      cases comma'
  | item comma first others ih ihOthers =>
    cases h' with
    | noItem closed' =>
      rw [comma] at closed'
      cases closed'
    | item comma' first' others' =>
      rw [comma] at comma'
      obtain ⟨-, rfl⟩ := List.cons.inj comma'
      obtain ⟨rfl, rfl⟩ := ih first'
      obtain ⟨hvs, rfl⟩ := ihOthers others'
      cases hvs
      exact ⟨rfl, rfl⟩
  | noMember closed =>
    cases h' with
    | noMember closed' =>
      rw [closed] at closed'
      exact ⟨rfl, (List.cons.inj closed').2⟩
    | moreMembers comma' =>
      rw [closed] at comma'
      cases comma'
  | moreMembers comma first others ih ihOthers =>
    cases h' with
    | noMember closed' =>
      rw [comma] at closed'
      cases closed'
    | moreMembers comma' first' others' =>
      rw [comma] at comma'
      obtain ⟨-, rfl⟩ := List.cons.inj comma'
      obtain ⟨hentry, rfl⟩ := ih first'
      obtain ⟨hentries, rfl⟩ := ihOthers others'
      cases hentry
      cases hentries
      exact ⟨rfl, rfl⟩

end Reads

theorem IsText.unique {s : String} {v w : Value} (h : IsText s v) (h' : IsText s w) : v = w := by
  obtain ⟨_, hv, -⟩ := h
  obtain ⟨_, hw, -⟩ := h'
  exact (hv.unique hw).1

end CryptoAudit.Json
