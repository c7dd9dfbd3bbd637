import CryptoAudit.Classify
import CryptoAudit.Proofs.Name.ModeSuffix
import CryptoAudit.Proofs.Taxonomy.Insertion

/-!
# Respelled names

A raw name denotes the same entry however the case of its ASCII letters is chosen and wherever
underscores are put in or left out. Its full form does not change at all. Its short form may
change, but only between the full form and nothing, and neither of these finds an entry that the
full form does not find.

## Main definitions

* `Name.Respelling`: texts that differ in the case of ASCII letters and in underscores

## Main results

* `Name.Respelling.bare_upperChars`: what respelled texts have in common
* `Name.Respelling.short_cases`: how the short form may change
* `Registry.classify_respelling`: respelled names denote the same
-/

namespace CryptoAudit

namespace Name

/-- Two texts that differ only in the case of ASCII letters and in underscores, which may stand
anywhere in either of them. -/
inductive Respelling : List Char → List Char → Prop
  | nil : Respelling [] []
  | cons {c d : Char} {cs ds : List Char} (case : Text.lowerAscii c = Text.lowerAscii d)
      (rest : Respelling cs ds) : Respelling (c :: cs) (d :: ds)
  | insert {cs ds : List Char} (rest : Respelling cs ds) : Respelling cs ('_' :: ds)
  | delete {cs ds : List Char} (rest : Respelling cs ds) : Respelling ('_' :: cs) ds

/-- Upper-casing does not see the case of ASCII letters. -/
theorem upperChar_lowerAscii (c : Char) :
    Text.upperChar (Text.lowerAscii c) = Text.upperChar c := by
  have ascii : ∀ n < 128, Text.upperChar (Text.lowerAscii (Char.ofNat n)) =
      Text.upperChar (Char.ofNat n) := by decide +kernel
  by_cases h : c.toNat < 128
  · have := ascii c.toNat h
    rwa [Char.ofNat_toNat] at this
  · have hz : ¬c ≤ 'Z' := fun hle => h (Nat.lt_of_le_of_lt hle (by decide))
    simp [Text.lowerAscii, hz]

namespace Respelling

variable {cs ds : List Char}

/-- In upper case and without underscores respelled texts are equal. -/
theorem bare_upperChars (h : Respelling cs ds) :
    bare (Text.upperChars cs) = bare (Text.upperChars ds) := by
  have underscore (es : List Char) :
      bare (Text.upperChars ('_' :: es)) = bare (Text.upperChars es) := by
    have : bare (Text.upperChar '_') = [] := by decide
    rw [Text.upperChars_cons, bare_append, this, List.nil_append]
  induction h with
  | nil => rfl
  | @cons c d cs ds case _ ih =>
    have hupper : Text.upperChar c = Text.upperChar d := by
      rw [← upperChar_lowerAscii c, case, upperChar_lowerAscii]
    rw [Text.upperChars_cons, Text.upperChars_cons, bare_append, bare_append, hupper, ih]
  | insert _ ih => rw [underscore, ih]
  | delete _ ih => rw [underscore, ih]

theorem fullForm_eq (h : Respelling cs ds) : fullForm cs = fullForm ds := by
  rw [fullForm, fullForm, ← stripSeparators_bare, h.bare_upperChars, stripSeparators_bare]

/-- The short form stays as it is, or is the full form on one side and empty on the other. -/
theorem short_cases (h : Respelling cs ds) :
    shortForm cs = shortForm ds ∨ (shortForm cs = [] ∧ shortForm ds = fullForm ds) ∨
      shortForm cs = fullForm cs ∧ shortForm ds = [] := by
  have hfull (es : List Char) : fullForm es = stripSeparators (bare (Text.upperChars es)) :=
    (stripSeparators_bare _).symm
  have hcs := strip_dropModeSuffix_cases (Text.upperChars cs)
  have hds := strip_dropModeSuffix_cases (Text.upperChars ds)
  rw [hfull cs, hfull ds]
  unfold shortForm
  rw [h.bare_upperChars] at hcs ⊢
  rcases hcs with ⟨hnot, hcs⟩ | ⟨hqualified, hcs⟩
  · rcases hds with ⟨-, hds⟩ | ⟨hqualified, -⟩
    · exact .inl (hcs.trans hds.symm)
    · exact absurd (hnot.symm.trans hqualified) Bool.false_ne_true
  · rcases hds with ⟨hnot, -⟩ | ⟨-, hds⟩
    · exact absurd (hnot.symm.trans hqualified) Bool.false_ne_true
    · -- Both are qualified, and each of them is its word, or everything if the word is empty.
      rcases hcs with hcs | ⟨hword, hcs⟩ <;> rcases hds with hds | ⟨hword', hds⟩
      · exact .inl (hcs.trans hds.symm)
      · exact .inr (.inl ⟨hcs.trans hword', hds⟩)
      · exact .inr (.inr ⟨hcs, hds.trans hword⟩)
      · exact .inl (hcs.trans hds.symm)

end Respelling

end Name

namespace Registry

/-- Respelled names denote the same entry, or both denote none: neither the case of ASCII letters
nor underscores count, wherever they stand. -/
theorem classify_respelling (r : Registry) {raw raw' : String}
    (h : Name.Respelling raw.toList raw'.toList) : r.classify raw = r.classify raw' := by
  have hfull : Name.full raw = Name.full raw' := congrArg String.ofList h.fullForm_eq
  have hempty : r.find? (String.ofList []) = none := find?_empty
  rw [classify_eq_or, classify_eq_or, ← hfull]
  rcases h.short_cases with hshort | ⟨hshort, hshort'⟩ | ⟨hshort, hshort'⟩
  · rw [Name.short, Name.short, hshort]
  · have : Name.short raw' = Name.full raw := (congrArg String.ofList hshort').trans hfull.symm
    rw [this, Name.short, hshort, hempty, Option.or_none, Option.or_self]
  · have : Name.short raw = Name.full raw := congrArg String.ofList hshort
    rw [this, Name.short, hshort', hempty, Option.or_none, Option.or_self]

/-- An underscore before a leading dash makes a word of it, and the name still denotes `MD5`. -/
theorem classify_respelling_leading_dash :
    Name.Respelling "-md5".toList "_-M_d5".toList ∧
      builtin.classify "-md5" = builtin.classify "_-M_d5" ∧
      (builtin.classify "-md5").map Entry.name = some "MD5" := by
  have respelled : Name.Respelling "-md5".toList "_-M_d5".toList := by
    change Name.Respelling ['-', 'm', 'd', '5'] ['_', '-', 'M', '_', 'd', '5']
    exact .insert (.cons rfl (.cons rfl (.insert (.cons rfl (.cons rfl .nil)))))
  exact ⟨respelled, classify_respelling builtin respelled, by decide +kernel⟩

end Registry

end CryptoAudit
