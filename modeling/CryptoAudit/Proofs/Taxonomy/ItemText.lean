import CryptoAudit.Proofs.Classification.Listed
import CryptoAudit.Proofs.Taxonomy.Grammar

/-!
# Which values have a name as text

An item of settings is registered under its text, whatever kind of value it is. Letters and digits
with separators between them always make a name, and one other visible character is enough to spoil
it. So nothing, truth values, integers and dates have names as texts, and so have the numbers that
are written without a point and a plus. Collections have brackets in their texts, bytes have quotes
and points in time have colons.

## Main definitions

* `IsPlain`: letters, digits and separators
* `Spoils`: a character that keeps a text from being a name
* `Binary64.IsBare`: a number that is written without a point and a plus
* `Value.IsNaming`: the values with names as texts, kind by kind

## Main results

* `Registry.isCanonical_normalName`: letters, digits and separators make a name
* `not_isCanonical_normalName`: another character spoils it
* `Binary64.isCanonical_toText_iff`: which numbers have names as texts
* `Value.isNameItem_iff_isNaming`: which values have names as texts
-/

namespace CryptoAudit

/-! ### Characters of a name -/

namespace Text

theorem mem_of_mem_stripChars {cs : List Char} {c : Char} (h : c ∈ stripChars cs) : c ∈ cs := by
  obtain ⟨before, after, hcs, -, -⟩ := exists_append_stripChars cs
  rw [hcs]
  exact List.mem_append_right _ (List.mem_append_left _ h)

/-- Only blanks are dropped at the ends. -/
theorem mem_stripChars_of_not_blank {cs : List Char} {c : Char} (h : c ∈ cs)
    (hblank : isBlank c = false) : c ∈ stripChars cs := by
  obtain ⟨before, after, hcs, hbefore, hafter⟩ := exists_append_stripChars cs
  rw [hcs, List.mem_append, List.mem_append] at h
  rcases h with h | h | h
  · exact absurd (hblank.symm.trans (hbefore c h)) Bool.false_ne_true
  · exact h
  · exact absurd (hblank.symm.trans (hafter c h)) Bool.false_ne_true

end Text

/-- A run of ASCII letters and digits with separators. -/
def IsPlain (cs : List Char) : Prop :=
  ∀ c ∈ cs, c.isAlphanum = true ∨ Name.isSeparator c = true

@[simp] theorem isPlain_nil : IsPlain [] :=
  fun _ hc => absurd hc List.not_mem_nil

@[simp] theorem isPlain_cons {c : Char} {cs : List Char} :
    IsPlain (c :: cs) ↔ (c.isAlphanum = true ∨ Name.isSeparator c = true) ∧ IsPlain cs :=
  List.forall_mem_cons

@[simp] theorem isPlain_append {cs ds : List Char} :
    IsPlain (cs ++ ds) ↔ IsPlain cs ∧ IsPlain ds :=
  List.forall_mem_append

/-- In upper case an ASCII letter or digit is one canonical character, and it is no blank. -/
theorem upperChar_of_isAlphanum {c : Char} (h : c.isAlphanum = true) :
    (∃ d, Text.upperChar c = [d] ∧ isCanonicalChar d = true) ∧ Text.isBlank c = false := by
  have hascii : c.toNat < 128 := by
    delta Char.isAlphanum Char.isAlpha Char.isUpper Char.isLower Char.isDigit at h
    simp only [Bool.or_eq_true, Bool.and_eq_true, decide_eq_true_eq, UInt32.le_iff_toNat_le,
      ge_iff_le] at h
    change ((65 ≤ c.toNat ∧ c.toNat ≤ 90) ∨ 97 ≤ c.toNat ∧ c.toNat ≤ 122) ∨
      48 ≤ c.toNat ∧ c.toNat ≤ 57 at h
    omega
  have table : ∀ n < 128, (Char.ofNat n).isAlphanum = true →
      (Text.upperChar (Char.ofNat n)).length = 1 ∧
        (Text.upperChar (Char.ofNat n)).all isCanonicalChar = true ∧
          Text.isBlank (Char.ofNat n) = false := by
    decide +kernel
  have hrow := table c.toNat hascii
  rw [Char.ofNat_toNat] at hrow
  obtain ⟨hlength, hcanonical, hblank⟩ := hrow h
  obtain ⟨d, hd⟩ := List.length_eq_one_iff.1 hlength
  rw [hd, List.all_cons, List.all_nil, Bool.and_true] at hcanonical
  exact ⟨⟨d, hd, hcanonical⟩, hblank⟩

namespace Registry

/-- The characters of a normalised name: those of the text without the blanks at its ends, in upper
case and without separators. -/
theorem mem_normalName_iff {s : String} {d : Char} :
    d ∈ (normalName s).toList ↔
      ∃ c ∈ Text.stripChars s.toList, d ∈ Text.upperChar c ∧ Name.isSeparator d = false := by
  rw [normalName, String.toList_ofList, Name.stripSeparators, List.mem_filter, Text.upperChars,
    List.mem_flatMap]
  simp only [Bool.not_eq_eq_eq_not, Bool.not_true]
  tauto

/-- ASCII letters and digits make a name, with separators anywhere among them. -/
theorem isCanonical_normalName {s : String} (hchars : IsPlain s.toList)
    (hsome : ∃ c ∈ s.toList, c.isAlphanum = true) : IsCanonical (normalName s) := by
  constructor
  · obtain ⟨c, hc, hletter⟩ := hsome
    obtain ⟨⟨d, hupper, hcanonical⟩, hblank⟩ := upperChar_of_isAlphanum hletter
    have hmem : d ∈ (normalName s).toList := by
      refine mem_normalName_iff.2 ⟨c, Text.mem_stripChars_of_not_blank hc hblank, ?_, ?_⟩
      · rw [hupper, List.mem_singleton]
      · exact (isCanonicalChar_cases hcanonical).2.1
    exact List.ne_nil_of_mem hmem
  · refine List.all_eq_true.2 fun d hd => ?_
    obtain ⟨c, hc, hupper, hseparator⟩ := mem_normalName_iff.1 hd
    rcases hchars c (Text.mem_of_mem_stripChars hc) with hletter | hsep
    · obtain ⟨⟨d', hd', hcanonical⟩, -⟩ := upperChar_of_isAlphanum hletter
      rw [hd', List.mem_singleton] at hupper
      exact hupper ▸ hcanonical
    · rw [Name.upperChar_separator hsep, List.mem_singleton] at hupper
      rw [hupper, hsep] at hseparator
      cases hseparator

end Registry

/-- A character that stays as it is in a normalised name although it may not stand in one. -/
def Spoils (c : Char) : Prop :=
  Text.isBlank c = false ∧ Name.isSeparator c = false ∧ Text.upperChar c = [c] ∧
    isCanonicalChar c = false

instance (c : Char) : Decidable (Spoils c) :=
  inferInstanceAs (Decidable (_ ∧ _ ∧ _ ∧ _))

/-- A text with another character is no name. -/
theorem not_isCanonical_normalName {s : String} {c : Char} (hmem : c ∈ s.toList)
    (hspoils : Spoils c) : ¬IsCanonical (Registry.normalName s) := by
  obtain ⟨hblank, hseparator, hupper, hcanonical⟩ := hspoils
  have hkept : c ∈ (Registry.normalName s).toList := by
    refine Registry.mem_normalName_iff.2
      ⟨c, Text.mem_stripChars_of_not_blank hmem hblank, ?_, hseparator⟩
    rw [hupper, List.mem_singleton]
  intro hname
  exact absurd (hcanonical.symm.trans (List.all_eq_true.1 hname.2 c hkept)) Bool.false_ne_true

/-! ### Numbers and dates -/

theorem isAlphanum_of_mem_toDigits {n : Nat} {c : Char} (h : c ∈ Nat.toDigits 10 n) :
    c.isAlphanum = true := by
  rw [Char.isAlphanum, Nat.isDigit_of_mem_toDigits (by decide) (by decide) h, Bool.or_true]

@[simp] theorem isPlain_toDigits (n : Nat) : IsPlain (Nat.toDigits 10 n) :=
  fun _ hc => .inl (isAlphanum_of_mem_toDigits hc)

@[simp] theorem isPlain_padded (width n : Nat) : IsPlain (padded width n).toList := by
  have hzeros (k : Nat) : IsPlain (List.replicate k '0') := fun c hc =>
    .inl (List.eq_of_mem_replicate hc ▸ rfl)
  simp [padded, hzeros]

/-- Some digit stands in every text of digits. -/
theorem exists_mem_toDigits (n : Nat) : ∃ c ∈ Nat.toDigits 10 n, c.isAlphanum = true := by
  obtain ⟨c, hc⟩ := List.exists_mem_of_ne_nil _ (Nat.toDigits_ne_nil (n := n) (b := 10))
  exact ⟨c, hc, isAlphanum_of_mem_toDigits hc⟩

/-- The sign of an integer is a separator, so the integer and its negative have one name. -/
theorem isCanonical_decimal (n : Int) : IsCanonical (Registry.normalName (decimal n)) := by
  obtain ⟨c, hc, hdigit⟩ := exists_mem_toDigits n.natAbs
  refine Registry.isCanonical_normalName ?_ ⟨c, ?_, hdigit⟩
  · rw [decimal, String.toList_ofList]
    split
    · exact isPlain_cons.2 ⟨.inr rfl, isPlain_toDigits _⟩
    · exact isPlain_toDigits _
  · rw [decimal, String.toList_ofList]
    split
    · exact List.mem_cons_of_mem _ hc
    · exact hc

theorem isCanonical_date (d : Date) : IsCanonical (Registry.normalName d.text) := by
  obtain ⟨c, hc, hdigit⟩ := exists_mem_toDigits d.year
  have hdash : IsPlain "-".toList := isPlain_cons.2 ⟨.inr rfl, isPlain_nil⟩
  refine Registry.isCanonical_normalName ?_ ⟨c, ?_, hdigit⟩
  · simp only [Date.text, String.toList_append, isPlain_append, isPlain_padded, hdash, and_self]
  · simp only [Date.text, String.toList_append, padded, String.toList_ofList, List.mem_append]
    tauto

namespace Binary64

/-- One digit with a negative exponent, which is written without a point and a plus. -/
def IsBareDigit (m : Nat) (e : Int) : Prop :=
  m ≠ 0 ∧ (shortest m e).1.length ≤ 1 ∧ (shortest m e).2 ≤ -4

/-- A number whose text has neither a point nor a plus: not-a-number, an infinity, or one digit
with a negative exponent. -/
def IsBare : Binary64 → Prop
  | .nan | .infinite _ => True
  | .finite _ m e => IsBareDigit m e

theorem isPlain_shortest (m : Nat) (e : Int) : IsPlain (shortest m e).1 := by
  intro c hc
  simp only [shortest, List.mem_reverse] at hc
  exact isPlain_toDigits _ c (List.mem_reverse.1 ((List.dropWhile_sublist _).subset hc))

theorem point_mem_positional (digits : List Char) (point : Int) :
    '.' ∈ positional digits point := by
  rw [positional]
  split <;> simp

/-- One digit with a negative exponent is written with letters, digits and separators alone. -/
theorem isPlain_scientific {digits : List Char} {point : Int} (hplain : IsPlain digits)
    (hlength : digits.length ≤ 1) (hpoint : point ≤ 0) : IsPlain (scientific digits point) := by
  have htake : IsPlain (digits.take 1) := fun c hc => hplain c (List.mem_of_mem_take hc)
  have hdrop : digits.drop 1 = [] := List.drop_eq_nil_of_le hlength
  have hzeros (k : Nat) : IsPlain (List.replicate k '0') := fun c hc =>
    .inl (List.eq_of_mem_replicate hc ▸ rfl)
  have hexponent : point - 1 < 0 := by omega
  simp only [scientific, hdrop, List.isEmpty_nil, if_true, hexponent, isPlain_append, isPlain_cons,
    htake, isPlain_nil, hzeros, isPlain_toDigits, and_self, and_true, true_and]
  exact ⟨.inl rfl, .inr rfl⟩

theorem mem_scientific (digits : List Char) (point : Int) : 'e' ∈ scientific digits point := by
  simp [scientific]

/-- Every other number in scientific notation has a point or a plus. -/
theorem exists_spoils_mem_scientific {digits : List Char} {point : Int}
    (h : digits.length ≤ 1 → ¬point ≤ 0) : ∃ c ∈ scientific digits point, Spoils c := by
  by_cases hlength : digits.length ≤ 1
  · have hexponent : ¬point - 1 < 0 := by
      have := h hlength
      omega
    refine ⟨'+', ?_, by decide⟩
    simp [scientific, hexponent]
  · have hdrop : (digits.drop 1).isEmpty = false := by
      rw [List.isEmpty_eq_false_iff, ne_eq, List.drop_eq_nil_iff]
      exact hlength
    refine ⟨'.', ?_, by decide⟩
    simp only [scientific, hdrop, Bool.false_eq_true, if_false, List.mem_append, List.mem_cons,
      true_or, or_true]

/-- The digits of a finite number with its point or its exponent. -/
def unsignedText (m : Nat) (e : Int) : List Char :=
  if m = 0 then ['0', '.', '0']
  else if isPositional (shortest m e).2 then positional (shortest m e).1 (shortest m e).2
  else scientific (shortest m e).1 (shortest m e).2

theorem toList_toText_finite (negative : Bool) (m : Nat) (e : Int) :
    (toText (.finite negative m e)).toList =
      (if negative then ['-'] else []) ++ unsignedText m e := by
  rw [toText, String.toList_ofList]
  cases negative <;> rfl

/-- Without its sign a number is one digit with a negative exponent, in letters, digits and
separators alone, or it has a point or a plus. -/
theorem unsignedText_cases (m : Nat) (e : Int) :
    IsBareDigit m e ∧ IsPlain (unsignedText m e) ∧ 'e' ∈ unsignedText m e ∨
      ¬IsBareDigit m e ∧ ∃ c ∈ unsignedText m e, Spoils c := by
  by_cases hzero : m = 0
  · have htext : unsignedText m e = ['0', '.', '0'] := if_pos hzero
    rw [htext]
    exact .inr ⟨fun h => h.1 hzero, '.', by decide, by decide⟩
  · -- Positional notation has a point, and scientific notation has none only with one digit.
    by_cases hpositional : isPositional (shortest m e).2 = true
    · have htext : unsignedText m e = positional (shortest m e).1 (shortest m e).2 := by
        rw [unsignedText, if_neg hzero, if_pos hpositional]
      rw [htext]
      refine .inr ⟨fun h => ?_, '.', point_mem_positional _ _, by decide⟩
      have hpoint := h.2.2
      simp only [isPositional, Bool.and_eq_true, decide_eq_true_eq] at hpositional
      omega
    · have htext : unsignedText m e = scientific (shortest m e).1 (shortest m e).2 := by
        rw [unsignedText, if_neg hzero, if_neg hpositional]
      rw [htext]
      simp only [isPositional, Bool.and_eq_true, decide_eq_true_eq] at hpositional
      by_cases hbare : (shortest m e).1.length ≤ 1 ∧ (shortest m e).2 ≤ -4
      · have hpoint : (shortest m e).2 ≤ 0 := by omega
        exact .inl ⟨⟨hzero, hbare⟩, isPlain_scientific (isPlain_shortest m e) hbare.1 hpoint,
          mem_scientific _ _⟩
      · refine .inr ⟨fun h => hbare h.2, exists_spoils_mem_scientific fun hlength hpoint => ?_⟩
        exact hbare ⟨hlength, by omega⟩

/-- The text of a number is a name exactly if it has neither a point nor a plus. -/
theorem isCanonical_toText_iff (x : Binary64) :
    IsCanonical (Registry.normalName x.toText) ↔ x.IsBare := by
  cases x with
  | nan => exact iff_of_true (by decide +kernel) trivial
  | infinite negative =>
    refine iff_of_true ?_ trivial
    cases negative <;> decide +kernel
  | finite negative m e =>
    rcases unsignedText_cases m e with ⟨hbare, hplain, hletter⟩ | ⟨hbare, c, hc, hspoils⟩
    · refine iff_of_true (Registry.isCanonical_normalName ?_ ⟨'e', ?_, rfl⟩) hbare
      · rw [toList_toText_finite, isPlain_append]
        refine ⟨?_, hplain⟩
        cases negative
        · exact isPlain_nil
        · exact isPlain_cons.2 ⟨.inr rfl, isPlain_nil⟩
      · rw [toList_toText_finite]
        exact List.mem_append_right _ hletter
    · refine iff_of_false (not_isCanonical_normalName ?_ hspoils) hbare
      rw [toList_toText_finite]
      exact List.mem_append_right _ hc

end Binary64

/-! ### Values -/

namespace Value

/-- The values whose texts are names, kind by kind. -/
def IsNaming : Value → Prop
  | .null | .bool _ | .date _ => True
  | .int n => (Value.int n).isWritable = true
  | .float x => x.IsBare
  | .text s => IsCanonical (Registry.normalName s)
  | .path p => IsCanonical (Registry.normalName p.text)
  | .bytes _ | .moment _ | .list _ | .pair _ _ | .map _ | .set _ => False

theorem spoils_enclosing (cs : List Char) : Spoils (Text.enclosing cs) := by
  rw [Text.enclosing]
  split <;> decide

variable {v : Value}

theorem isNameItem_of_isWritable (h : v.isWritable = true) :
    IsNameItem v ↔ IsCanonical (Registry.normalName v.display) := by
  simp only [IsNameItem, display?_eq_some_iff, h, true_and, exists_eq_left']

theorem not_isNameItem {c : Char} (hmem : c ∈ v.display.toList) (hspoils : Spoils c) :
    ¬IsNameItem v := by
  rintro ⟨s, hs, hname⟩
  obtain ⟨-, rfl⟩ := display?_eq_some_iff.1 hs
  exact not_isCanonical_normalName hmem hspoils hname

/-- Which values have names as their texts: collections have brackets in theirs, bytes have quotes
and points in time have colons. -/
theorem isNameItem_iff_isNaming (v : Value) : IsNameItem v ↔ v.IsNaming := by
  cases v with
  | null => exact iff_of_true ⟨_, rfl, by decide +kernel⟩ trivial
  | bool b =>
    refine iff_of_true ⟨_, rfl, ?_⟩ trivial
    cases b <;> decide +kernel
  | int n =>
    constructor
    · rintro ⟨s, hs, -⟩
      exact (display?_eq_some_iff.1 hs).1
    · intro h
      exact (isNameItem_of_isWritable h).2 (isCanonical_decimal n)
  | float x => exact (isNameItem_of_isWritable rfl).trans x.isCanonical_toText_iff
  | date d => exact iff_of_true ((isNameItem_of_isWritable rfl).2 (isCanonical_date d)) trivial
  | text s => exact isNameItem_of_isWritable rfl
  | path p => exact isNameItem_of_isWritable rfl
  | bytes bs =>
    refine iff_of_false
      (not_isNameItem ?_ (spoils_enclosing (bs.map fun b => Char.ofNat b.toNat))) id
    simp [display, quoted, Text.quoteBytes]
  | moment t =>
    refine iff_of_false (not_isNameItem (c := ':') ?_ (by decide)) id
    simp [display, Moment.text, Moment.clock]
  | list items =>
    refine iff_of_false (not_isNameItem (c := '[') ?_ (by decide)) id
    simp [display, quoted]
  | pair a b =>
    refine iff_of_false (not_isNameItem (c := '(') ?_ (by decide)) id
    simp [display, quoted]
  | map entries =>
    refine iff_of_false (not_isNameItem (c := '\x7b') ?_ (by decide)) id
    simp [display, quoted]
  | set items =>
    cases items with
    | nil => exact iff_of_false (not_isNameItem (c := '(') (by decide +kernel) (by decide)) id
    | cons item items =>
      refine iff_of_false (not_isNameItem (c := '\x7b') ?_ (by decide)) id
      simp [display, quoted]

end Value

end CryptoAudit
