import Mathlib.Algebra.Ring.Nat
import CryptoAudit.Text.Quoted
import CryptoAudit.Yaml.Quoted

/-!
# Reading quoted text back

The escapes of a quoted text can be read one after the other, from the left and without looking
ahead: the first character tells how many more belong to it. The closing quote is not the start of
an escape, so a quoted text says itself where it ends, and text that follows it can neither be
taken for a part of it nor the other way round. All that a quoted text consists of is printable,
so it is one line on any screen.

## Main definitions

* `readHex?`: a number read from hexadecimal digits
* `unquoteChar?`: one character of a text, read from between its quotes
* `IsLineControl`: the characters that end a line or control a screen
* `IsPrintableText`: the texts without any unprintable character

## Main results

* `readHex?_hexDigits`: hexadecimal digits are read back
* `unquoteChar?_quoteChar`: an escape is read back, whatever follows it
* `quote_append_inj`: a quoted text ends where its closing quote is
* `not_isLineControl`: what is printable does not end a line
* `isPrintableText_quote`: quoted text is printable
-/

namespace CryptoAudit.Text

/-! ### Hexadecimal digits -/

theorem hexValue?_hexDigit : ∀ n < 16, Yaml.hexValue? (hexDigit n) = some n := by
  decide

theorem length_hexDigits (width n : Nat) : (hexDigits width n).length = width := by
  induction width generalizing n with
  | zero => rfl
  | succ width ih => rw [hexDigits, List.length_append, ih, List.length_singleton]

/-- As many digits as are written hold the number up to a power of sixteen. -/
theorem hexNumber?_hexDigits (width n : Nat) :
    Yaml.hexNumber? (hexDigits width n) = some (n % 16 ^ width) := by
  induction width generalizing n with
  | zero => simp [hexDigits, Yaml.hexNumber?, Nat.mod_one]
  | succ width ih =>
    have hdigit := hexValue?_hexDigit (n % 16) (Nat.mod_lt n (by decide))
    have hmod : n % 16 ^ (width + 1) = 16 * (n / 16 % 16 ^ width) + n % 16 := by
      rw [Nat.pow_succ', Nat.mod_mul, Nat.add_comm]
    have hinit := ih (n / 16)
    rw [Yaml.hexNumber?] at hinit
    rw [Yaml.hexNumber?, hexDigits, List.foldlM_append, hinit, hmod]
    simp [hdigit]

/-- The number that as many hexadecimal digits denote, and what follows them. -/
def readHex? (width : Nat) (cs : List Char) : Option (Nat × List Char) :=
  if width ≤ cs.length then (Yaml.hexNumber? (cs.take width)).map (·, cs.drop width) else none

/-- Digits that hold a number are read back, whatever follows them. -/
theorem readHex?_hexDigits {width n : Nat} (hn : n < 16 ^ width) (rest : List Char) :
    readHex? width (hexDigits width n ++ rest) = some (n, rest) := by
  have hlength := length_hexDigits width n
  have hwidth : width ≤ (hexDigits width n ++ rest).length := by
    rw [List.length_append, hlength]
    exact Nat.le_add_right width rest.length
  rw [readHex?, if_pos hwidth, List.take_left' hlength, List.drop_left' hlength,
    hexNumber?_hexDigits, Option.map_some, Nat.mod_eq_of_lt hn]

theorem exists_of_mem_hexDigits {width n : Nat} {c : Char} (h : c ∈ hexDigits width n) :
    ∃ digit < 16, c = hexDigit digit := by
  induction width generalizing n with
  | zero => cases h
  | succ width ih =>
    rcases List.mem_append.1 h with hc | hc
    · exact ih hc
    · exact ⟨n % 16, Nat.mod_lt n (by decide), List.mem_singleton.1 hc⟩

/-! ### One character -/

/-- The character that an escape without digits stands for. -/
def plainEscape? (c : Char) : Option Char :=
  match c with
  | '\\' => some '\\'
  | '\'' => some '\''
  | '"' => some '"'
  | 'n' => some '\n'
  | 'r' => some '\r'
  | 't' => some '\t'
  | _ => none

/-- One character of a text, read from between its quotes, and what follows it. -/
def unquoteChar? (cs : List Char) : Option (Char × List Char) :=
  match cs with
  | [] => none
  | '\\' :: c :: rest =>
    match plainEscape? c, Yaml.escapeWidth? c with
    | some d, _ => some (d, rest)
    | none, some width =>
      (readHex? width rest).map fun (n, rest) => (Char.ofNat n, rest)
    | none, none => none
  | c :: rest => some (c, rest)

/-- An escape with as many digits as its letter asks for is read back. -/
theorem unquoteChar?_hexDigits {letter : Char} {width n : Nat} (hplain : plainEscape? letter = none)
    (hwidth : Yaml.escapeWidth? letter = some width) (hn : n < 16 ^ width) (rest : List Char) :
    unquoteChar? ('\\' :: letter :: hexDigits width n ++ rest) = some (Char.ofNat n, rest) := by
  rw [List.cons_append, List.cons_append]
  simp only [unquoteChar?, hplain, hwidth, readHex?_hexDigits hn, Option.map_some]

/-- The two quotes that enclose texts. -/
def IsQuote (q : Char) : Prop :=
  q = '\'' ∨ q = '"'

theorem isQuote_enclosing (cs : List Char) : IsQuote (enclosing cs) := by
  rw [enclosing]
  split_ifs
  · exact .inr rfl
  · exact .inl rfl

/-- Each of the three widths is used where it holds the code point. -/
theorem escapeCodePoint_cases (c : Char) :
    ∃ letter width, escapeCodePoint c.toNat = '\\' :: letter :: hexDigits width c.toNat ∧
      plainEscape? letter = none ∧ Yaml.escapeWidth? letter = some width ∧
      c.toNat < 16 ^ width := by
  have hc : c.toNat < 16 ^ 8 := c.val.toNat_lt
  rw [escapeCodePoint]
  split_ifs with hbyte hshort
  · exact ⟨'x', 2, rfl, rfl, rfl, hbyte⟩
  · exact ⟨'u', 4, rfl, rfl, rfl, hshort⟩
  · exact ⟨'U', 8, rfl, rfl, rfl, hc⟩

/-- A character stands for itself, or a backslash stands before one other character, or before a
letter and as many digits as the letter asks for. -/
theorem quoteChar_cases {q : Char} (hq : IsQuote q) (c : Char) :
    (quoteChar q c = [c] ∧ isPrintable c = true ∧ c ≠ '\\' ∧ c ≠ q) ∨
    (∃ d, quoteChar q c = ['\\', d] ∧ plainEscape? d = some c) ∨
    (∃ letter width, quoteChar q c = '\\' :: letter :: hexDigits width c.toNat ∧
      plainEscape? letter = none ∧ Yaml.escapeWidth? letter = some width ∧
      c.toNat < 16 ^ width) := by
  rw [quoteChar]
  split_ifs with hself hnewline hreturn htab hprintable
  · refine .inr (.inl ⟨c, rfl, ?_⟩)
    rw [Bool.or_eq_true, decide_eq_true_eq, decide_eq_true_eq] at hself
    rcases hself with rfl | rfl
    · rfl
    · rcases hq with rfl | rfl <;> rfl
  · exact .inr (.inl ⟨'n', rfl, congrArg some hnewline.symm⟩)
  · exact .inr (.inl ⟨'r', rfl, congrArg some hreturn.symm⟩)
  · exact .inr (.inl ⟨'t', rfl, congrArg some htab.symm⟩)
  · rw [Bool.or_eq_true, decide_eq_true_eq, decide_eq_true_eq, not_or] at hself
    exact .inl ⟨rfl, hprintable, hself⟩
  · exact .inr (.inr (escapeCodePoint_cases c))

section

variable {q : Char} (hq : IsQuote q)

include hq

/-- A character is read back from its escape, whatever follows. -/
theorem unquoteChar?_quoteChar (c : Char) (rest : List Char) :
    unquoteChar? (quoteChar q c ++ rest) = some (c, rest) := by
  rcases quoteChar_cases hq c with
    ⟨hquoted, -, hslash, -⟩ | ⟨d, hquoted, hplain⟩ | ⟨letter, width, hquoted, hplain, hwidth, hc⟩
  · rw [hquoted, List.singleton_append]
    cases rest <;> simp [unquoteChar?, hslash]
  · rw [hquoted]
    simp [unquoteChar?, hplain]
  · rw [hquoted, unquoteChar?_hexDigits hplain hwidth hc, Char.ofNat_toNat]

/-- No escape starts with the closing quote. -/
theorem quoteChar_append_ne (c : Char) (rest rest' : List Char) :
    quoteChar q c ++ rest ≠ q :: rest' := by
  have hslash : '\\' ≠ q := by
    rcases hq with rfl | rfl <;> decide
  rcases quoteChar_cases hq c with
    ⟨hquoted, -, -, hself⟩ | ⟨d, hquoted, -⟩ | ⟨letter, width, hquoted, -⟩
  · simp [hquoted, hself]
  · simp [hquoted, hslash]
  · simp [hquoted, hslash]

/-- Between the same quotes, texts that are quoted alike up to the closing quote are the same. -/
theorem flatMap_quoteChar_inj {cs ds x y : List Char}
    (h : cs.flatMap (quoteChar q) ++ q :: x = ds.flatMap (quoteChar q) ++ q :: y) :
    cs = ds ∧ x = y := by
  induction cs generalizing ds with
  | nil =>
    cases ds with
    | nil => exact ⟨rfl, List.tail_eq_of_cons_eq h⟩
    | cons d ds =>
      rw [List.flatMap_cons, List.append_assoc] at h
      exact absurd h.symm (quoteChar_append_ne hq d _ _)
  | cons c cs ih =>
    cases ds with
    | nil =>
      rw [List.flatMap_cons, List.append_assoc] at h
      exact absurd h (quoteChar_append_ne hq c _ _)
    | cons d ds =>
      rw [List.flatMap_cons, List.flatMap_cons, List.append_assoc, List.append_assoc] at h
      have hread := congrArg unquoteChar? h
      rw [unquoteChar?_quoteChar hq, unquoteChar?_quoteChar hq, Option.some_inj,
        Prod.mk.injEq] at hread
      obtain ⟨rfl, hrest⟩ := hread
      obtain ⟨rfl, hxy⟩ := ih hrest
      exact ⟨rfl, hxy⟩

end

/-! ### Whole texts -/

/-- A quoted text ends where its closing quote is, so what follows it is known too. -/
theorem quote_append_inj {s t : String} {x y : List Char}
    (h : (quote s).toList ++ x = (quote t).toList ++ y) : s = t ∧ x = y := by
  simp only [quote, quoteChars, String.toList_ofList, List.cons_append, List.append_assoc,
    List.cons.injEq, List.nil_append] at h
  obtain ⟨hquote, hbody⟩ := h
  rw [← hquote] at hbody
  obtain ⟨hchars, hxy⟩ := flatMap_quoteChar_inj (isQuote_enclosing s.toList) hbody
  exact ⟨String.toList_injective hchars, hxy⟩

/-! ### Printable text -/

/-- Whether a character ends a line or controls a screen: the control characters of both sets,
and the separators of lines and paragraphs. -/
def IsLineControl (c : Char) : Prop :=
  c.toNat < 0x20 ∨ (0x7F ≤ c.toNat ∧ c.toNat < 0xA0) ∨ c.toNat = 0x2028 ∨ c.toNat = 0x2029

theorem not_isPrintable_of_mem {lo hi : Nat} (hmem : (lo, hi) ∈ unprintableRanges) {c : Char}
    (hlo : lo ≤ c.toNat) (hhi : c.toNat ≤ hi) : isPrintable c = false := by
  rw [isPrintable, Bool.not_eq_false', List.any_eq_true]
  exact ⟨(lo, hi), hmem, by simp [hlo, hhi]⟩

/-- What is printable neither ends a line nor controls a screen. -/
theorem not_isLineControl {c : Char} (h : isPrintable c = true) : ¬ IsLineControl c := by
  have hranges : (0x0, 0x1F) ∈ unprintableRanges ∧ (0x7F, 0xA0) ∈ unprintableRanges ∧
      (0x2028, 0x202F) ∈ unprintableRanges := by decide +kernel
  have hnot {lo hi : Nat} (hmem : (lo, hi) ∈ unprintableRanges) (hlo : lo ≤ c.toNat)
      (hhi : c.toNat ≤ hi) : False := by
    have := not_isPrintable_of_mem hmem hlo hhi
    rw [h] at this
    cases this
  rintro (hc | ⟨hlow, hhigh⟩ | hc | hc)
  · exact hnot hranges.1 (by omega) (by omega)
  · exact hnot hranges.2.1 (by omega) (by omega)
  · exact hnot hranges.2.2 (by omega) (by omega)
  · exact hnot hranges.2.2 (by omega) (by omega)

theorem isPrintable_hexDigit : ∀ n < 16, isPrintable (hexDigit n) = true := by
  decide +kernel

theorem isPrintable_of_plainEscape? {c d : Char} (h : plainEscape? d = some c) :
    isPrintable d = true := by
  have hd : 32 ≤ d.toNat ∧ d.toNat ≤ 126 := by
    unfold plainEscape? at h
    split at h <;> first | decide | cases h
  exact isPrintable_of_between hd.1 hd.2

theorem isPrintable_of_escapeWidth? {c : Char} {width : Nat}
    (h : Yaml.escapeWidth? c = some width) : isPrintable c = true := by
  have hc : 32 ≤ c.toNat ∧ c.toNat ≤ 126 := by
    unfold Yaml.escapeWidth? at h
    split at h <;> first | decide | cases h
  exact isPrintable_of_between hc.1 hc.2

theorem isPrintable_of_isQuote {q : Char} (h : IsQuote q) : isPrintable q = true := by
  apply isPrintable_of_between <;> rcases h with rfl | rfl <;> decide

/-- All that an escape consists of is printable. -/
theorem isPrintable_of_mem_quoteChar {q c d : Char} (hq : IsQuote q) (h : d ∈ quoteChar q c) :
    isPrintable d = true := by
  have hslash : isPrintable '\\' = true := isPrintable_of_between (by decide) (by decide)
  rcases quoteChar_cases hq c with
    ⟨hquoted, hc, -⟩ | ⟨e, hquoted, hplain⟩ | ⟨letter, width, hquoted, -, hwidth, -⟩
  · rw [hquoted, List.mem_singleton] at h
    rw [h]
    exact hc
  · rw [hquoted, List.mem_cons, List.mem_singleton] at h
    rcases h with rfl | rfl
    · exact hslash
    · exact isPrintable_of_plainEscape? hplain
  · rw [hquoted, List.mem_cons, List.mem_cons] at h
    rcases h with rfl | rfl | hdigit
    · exact hslash
    · exact isPrintable_of_escapeWidth? hwidth
    · obtain ⟨digit, hlt, rfl⟩ := exists_of_mem_hexDigits hdigit
      exact isPrintable_hexDigit digit hlt

/-- Whether a text is printable as a whole, and so a single line. -/
def IsPrintableText (s : String) : Prop :=
  ∀ c ∈ s.toList, isPrintable c = true

theorem IsPrintableText.append {s t : String} (hs : IsPrintableText s) (ht : IsPrintableText t) :
    IsPrintableText (s ++ t) := by
  intro c hc
  rw [String.toList_append, List.mem_append] at hc
  exact hc.elim (hs c) (ht c)

/-- Texts of the printable characters of ASCII are printable. -/
theorem isPrintableText_of_all {s : String}
    (h : (s.toList.all fun c => 32 ≤ c.toNat && c.toNat ≤ 126) = true) : IsPrintableText s := by
  intro c hc
  have hc' := List.all_eq_true.1 h c hc
  rw [Bool.and_eq_true, decide_eq_true_eq, decide_eq_true_eq] at hc'
  exact isPrintable_of_between hc'.1 hc'.2

/-- Quoted text is printable, whatever is quoted. -/
theorem isPrintableText_quote (s : String) : IsPrintableText (quote s) := by
  intro c hc
  have hq := isQuote_enclosing s.toList
  rw [quote, String.toList_ofList, quoteChars, List.mem_cons, List.mem_append,
    List.mem_singleton, List.mem_flatMap] at hc
  rcases hc with rfl | ⟨d, -, hc⟩ | rfl
  · exact isPrintable_of_isQuote hq
  · exact isPrintable_of_mem_quoteChar hq hc
  · exact isPrintable_of_isQuote hq

end CryptoAudit.Text
