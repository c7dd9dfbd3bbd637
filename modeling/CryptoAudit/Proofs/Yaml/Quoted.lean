import CryptoAudit.Proofs.Text.Quoted

/-!
# Any text in double quotes

A scalar in double quotes may hold any text at all: every character can be written as an escape by
its code point, in eight hexadecimal digits. Such a scalar has no blank and no line break, so it is
read in one run, escape by escape, up to the closing quote.

## Main definitions

* `Cursor.Passes`: a place is reached from another one by passing some characters of a line
* `codeEscape`, `escapedText`: a character as an escape, and a text in double quotes

## Main results

* `Cursor.Passes.advance`: passing characters one by one
* `quotedScalar_escapedText`: a text in double quotes is read back, whatever follows it
-/

namespace CryptoAudit.Yaml

/-! ### Places in a line -/

/-- The second place is reached from the first one by passing the characters, which are all in one
line. -/
structure Cursor.Passes (cs : List Char) (c d : Cursor) : Prop where
  rest : c.rest = cs ++ d.rest
  index : d.index = c.index + cs.length
  line : d.line = c.line

namespace Cursor

variable {c d e : Cursor} {cs ds : List Char}

theorem Passes.trans (h : Passes cs c d) (h' : Passes ds d e) : Passes (cs ++ ds) c e where
  rest := by rw [h.rest, h'.rest, List.append_assoc]
  index := by rw [h'.index, h.index, List.length_append, Nat.add_assoc]
  line := h'.line.trans h.line

theorem Passes.rest_eq {rest : List Char} (h : Passes cs c d) (hrest : c.rest = cs ++ rest) :
    d.rest = rest :=
  List.append_cancel_left (h.rest.symm.trans hrest)

/-- One character that does not end a line. -/
theorem Passes.step {x : Char} {rest : List Char} (hrest : c.rest = x :: rest)
    (hx : isBreak x = false) : Passes [x] c c.step := by
  have hstep : c.step =
      ⟨rest, c.index + 1, c.line, if x = '\uFEFF' then c.column else c.column + 1⟩ := by
    rw [Cursor.step, hrest]
    exact if_neg (by simp [hx])
  rw [hstep]
  exact ⟨hrest, rfl, rfl⟩

theorem Passes.advance {rest : List Char} (hrest : c.rest = cs ++ rest)
    (hcs : ∀ x ∈ cs, isBreak x = false) : Passes cs c (c.advance cs.length) := by
  induction cs generalizing c with
  | nil => exact ⟨rfl, rfl, rfl⟩
  | cons x cs ih =>
    have hstep := Passes.step hrest (hcs x List.mem_cons_self)
    exact hstep.trans (ih (hstep.rest_eq hrest) fun y hy => hcs y (List.mem_cons_of_mem x hy))

theorem peek_eq {x : Char} {rest : List Char} (h : c.rest = x :: rest) : c.peek = x := by
  rw [peek, h]
  rfl

/-- Nothing is taken if the next character is not in the class. -/
theorem span_of_not {p : Char → Bool} (h : p c.peek = false) : c.span p = ([], c) := by
  have hnone : c.rest.takeWhile p = [] := by
    cases hrest : c.rest with
    | nil => rfl
    | cons x rest =>
      rw [peek_eq hrest] at h
      exact List.takeWhile_cons_of_neg (by simp [h])
  rw [span, hnone]
  rfl

end Cursor

/-! ### Escapes -/

/-- A character as an escape by its code point. -/
def codeEscape (c : Char) : List Char :=
  '\\' :: 'U' :: Text.hexDigits 8 c.toNat

/-- A text in double quotes, with every character as an escape. -/
def escapedText (s : String) : List Char :=
  '"' :: (s.toList.flatMap codeEscape ++ ['"'])

theorem not_isBreak_hexDigit : ∀ n < 16, isBreak (Text.hexDigit n) = false := by
  decide

theorem not_isBreak_hexDigits {width n : Nat} :
    ∀ c ∈ Text.hexDigits width n, isBreak c = false := by
  intro c hc
  obtain ⟨digit, hdigit, rfl⟩ := Text.exists_of_mem_hexDigits hc
  exact not_isBreak_hexDigit digit hdigit

/-- A code point in eight digits is read back. -/
theorem escape_code {c : Cursor} {x : Char} {rest : List Char}
    (h : c.rest = 'U' :: (Text.hexDigits 8 x.toNat ++ rest)) :
    ∃ d, escape c = .ok ([x], d) ∧ Cursor.Passes ('U' :: Text.hexDigits 8 x.toNat) c d := by
  have hpeek : c.peek = 'U' := Cursor.peek_eq h
  have hstep := Cursor.Passes.step h (by decide)
  have hrest : c.step.rest = Text.hexDigits 8 x.toNat ++ rest := hstep.rest_eq h
  have hdigits := Cursor.Passes.advance hrest not_isBreak_hexDigits
  have hlength := Text.length_hexDigits 8 x.toNat
  have hsmall : x.toNat < 16 ^ 8 := x.val.toNat_lt
  have hnumber : hexNumber? (Text.hexDigits 8 x.toNat) = some x.toNat := by
    rw [Text.hexNumber?_hexDigits, Nat.mod_eq_of_lt hsmall]
  have hvalid : x.toNat.isValidChar := x.valid
  have hcode : charOfCode x.toNat = .ok x := by
    have hrange : x.toNat < 0x110000 := by
      have := hvalid
      simp only [Nat.isValidChar] at this
      omega
    rw [charOfCode, if_pos hrange, if_pos hvalid, Char.ofNat_toNat]
  refine ⟨c.step.advance 8, ?_, hlength ▸ hstep.trans hdigits⟩
  have hwidth : escapeWidth? 'U' = some 8 := rfl
  have hplain : escapedChar? 'U' = none := rfl
  simp only [escape, hpeek, hwidth, hplain, hrest, List.take_left' hlength, hnumber, hlength,
    if_true, hcode, bind, Except.bind, pure, Except.pure]

/-- A run of escapes is read up to the closing quote. -/
theorem quotedRun_escapes {c : Cursor} {cs rest : List Char} {fuel : Nat}
    (h : c.rest = cs.flatMap codeEscape ++ '"' :: rest) (hfuel : cs.length < fuel) :
    ∃ d, quotedRun true fuel c = .ok (cs, d) ∧ Cursor.Passes (cs.flatMap codeEscape) c d := by
  induction cs generalizing c fuel with
  | nil =>
    obtain ⟨fuel, rfl⟩ := Nat.exists_eq_add_one_of_ne_zero (Nat.ne_of_gt hfuel)
    have hpeek : c.peek = '"' := Cursor.peek_eq h
    refine ⟨c, ?_, ⟨rfl, rfl, rfl⟩⟩
    rw [quotedRun, Cursor.span_of_not (by rw [hpeek]; decide)]
    simp [hpeek]
  | cons x cs ih =>
    obtain ⟨fuel, rfl⟩ := Nat.exists_eq_add_one_of_ne_zero (Nat.ne_zero_of_lt hfuel)
    have hmore : cs.length < fuel := Nat.lt_of_succ_lt_succ hfuel
    have hrest : c.rest = '\\' :: ('U' :: (Text.hexDigits 8 x.toNat ++
        (cs.flatMap codeEscape ++ '"' :: rest))) := by
      rw [h, List.flatMap_cons, codeEscape]
      simp
    have hpeek : c.peek = '\\' := Cursor.peek_eq hrest
    have hslash := Cursor.Passes.step hrest (by decide)
    obtain ⟨d, hescape, hcode⟩ := escape_code (hslash.rest_eq hrest)
    obtain ⟨e, hrun, hpasses⟩ := ih (hcode.rest_eq (hslash.rest_eq hrest)) hmore
    refine ⟨e, ?_, (hslash.trans hcode).trans hpasses⟩
    rw [quotedRun, Cursor.span_of_not (by rw [hpeek]; decide)]
    simp [hpeek, hescape, hrun, bind, Except.bind, pure, Except.pure]

theorem length_le_length_escapes (cs : List Char) : cs.length ≤ (cs.flatMap codeEscape).length := by
  induction cs with
  | nil => exact Nat.le_refl 0
  | cons c cs ih =>
    rw [List.flatMap_cons, List.length_append, List.length_cons, Nat.add_comm]
    exact Nat.add_le_add (Nat.succ_le_of_lt (List.length_pos_iff.2 (List.cons_ne_nil _ _))) ih

/-- A text in double quotes is read back, whatever follows it. -/
theorem quotedScalar_escapedText {c : Cursor} {s : String} {rest : List Char}
    (h : c.rest = escapedText s ++ rest) :
    ∃ d, quotedScalar true c = .ok (.scalar s false, d) ∧ Cursor.Passes (escapedText s) c d := by
  have hrest : c.rest = '"' :: (s.toList.flatMap codeEscape ++ '"' :: rest) := by
    rw [h, escapedText]
    simp
  have hpeek : c.peek = '"' := Cursor.peek_eq hrest
  have hopen := Cursor.Passes.step hrest (by decide)
  have hinside : c.step.rest = s.toList.flatMap codeEscape ++ '"' :: rest := hopen.rest_eq hrest
  -- Each character takes several characters of the text, so there are enough steps.
  have hfuel : s.toList.length < c.step.fuel := by
    have := length_le_length_escapes s.toList
    rw [Cursor.fuel, hinside, List.length_append]
    omega
  obtain ⟨d, hrun, hpasses⟩ := quotedRun_escapes hinside hfuel
  have hclosing := hpasses.rest_eq hinside
  have hquote : d.peek = '"' := Cursor.peek_eq hclosing
  have hclose := Cursor.Passes.step hclosing (by decide)
  refine ⟨d.step, ?_, ?_⟩
  · have hread : quotedRest true '"' c.fuel c.step = .ok (s.toList, d.step) := by
      rw [Cursor.fuel, quotedRest, hrun]
      simp [hquote, bind, Except.bind, pure, Except.pure]
    rw [quotedScalar, hpeek, hread]
    simp [bind, Except.bind, pure, Except.pure]
  · exact (hopen.trans hpasses).trans hclose

end CryptoAudit.Yaml
