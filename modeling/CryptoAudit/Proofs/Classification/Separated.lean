import CryptoAudit.Proofs.Classification.Canonical
import CryptoAudit.Proofs.Classification.Respelling

/-!
# Separated names

A registered name may be written with dashes, underscores and spaces put in anywhere, and with its
letters in either case. What stands before the first dash may then be another registered name, but
it is not what the raw name denotes: all of it together is the full form, and that is tried in
every category before the short form is tried in any.

## Main definitions

* `Name.Separated`: a text written with separators put in
* `Registry.prefixed`: a registry in which one name starts another

## Main results

* `Name.Separated.fullForm_eq`: separators and case do not change the full form
* `Registry.classify_separated`: a separated name denotes what the name denotes
-/

namespace CryptoAudit

namespace Name

/-- The second text is the first one with its ASCII letters in either case and with dashes,
underscores and spaces put in anywhere. -/
inductive Separated : List Char → List Char → Prop
  | nil : Separated [] []
  | cons {c d : Char} {cs ds : List Char} (case : Text.lowerAscii c = Text.lowerAscii d)
      (rest : Separated cs ds) : Separated (c :: cs) (d :: ds)
  | insert {sep : Char} {cs ds : List Char} (separator : sep = '-' ∨ sep = '_' ∨ sep = ' ')
      (rest : Separated cs ds) : Separated cs (sep :: ds)

/-- A separator adds nothing to the full form. -/
theorem fullForm_cons_separator {sep : Char} (h : sep = '-' ∨ sep = '_' ∨ sep = ' ')
    (cs : List Char) : fullForm (sep :: cs) = fullForm cs := by
  have hnone : stripSeparators (Text.upperChar sep) = [] := by
    rcases h with rfl | rfl | rfl <;> decide
  rw [fullForm, Text.upperChars_cons, stripSeparators_append, hnone, List.nil_append, fullForm]

/-- Separators and the case of ASCII letters do not change the full form. -/
theorem Separated.fullForm_eq {cs ds : List Char} (h : Separated cs ds) :
    fullForm cs = fullForm ds := by
  induction h with
  | nil => rfl
  | @cons c d cs ds case _ ih =>
    have hupper : Text.upperChar c = Text.upperChar d := by
      rw [← upperChar_lowerAscii c, case, upperChar_lowerAscii]
    simp only [fullForm, Text.upperChars_cons, stripSeparators_append] at ih ⊢
    rw [hupper, ih]
  | insert separator _ ih => rw [fullForm_cons_separator separator, ih]

end Name

namespace Registry

/-- A registered name denotes the same entry however it is separated and whatever the case of its
letters is: the one that comes first under that name. No other name can take its place, not even
one that is registered in an earlier category and stands before the first dash. -/
theorem classify_separated (r : Registry) {e : Entry} (he : e ∈ r.entries) {raw : String}
    (h : Name.Separated e.name.toList raw.toList) :
    r.classify raw = r.classify e.name ∧
      ∃ f, r.classify raw = some f ∧ f.name = e.name ∧ f ∈ r.entries ∧
        ∀ g ∈ r.entries, g.name = e.name → g = f ∨ f.category.rank < g.category.rank := by
  have hfull : Name.fullForm raw.toList = e.name.toList := by
    rw [← h.fullForm_eq, Name.fullForm_canonical e.isCanonicalChar_of_mem]
  have hraw : r.classify raw = r.find? e.name := classify_of_full_eq he hfull
  obtain ⟨f, hfound, ⟨hmem, hfirst⟩, hname⟩ := exists_find?_of_has (has_name he)
  refine ⟨hraw.trans (classify_name he).symm, f, hraw.trans hfound, hname, hmem, ?_⟩
  intro g hg hsame
  exact hfirst g hg (hsame.trans hname.symm)

/-- A weak hash algorithm whose name starts that of `aes256`. -/
def weakAes : Entry := ⟨.hashing, "AES", true, aes.canonical⟩

/-- A strong encryption algorithm. -/
def aes256 : Entry := ⟨.encryption, "AES256", false, by decide +kernel⟩

/-- A registry in which one name starts another one, in an earlier category. -/
def prefixed : Registry :=
  (empty.add weakAes rfl).add aes256 (by decide +kernel)

/-- Before the dash stands a weak algorithm of an earlier category, and the whole name is still
the strong one. -/
theorem classify_separated_prefixed :
    prefixed.classify "Aes" = some weakAes ∧
      Name.Separated aes256.name.toList "Aes-_25 6".toList ∧
      prefixed.classify "Aes-_25 6" = some aes256 := by
  have hmem : aes256 ∈ prefixed.entries := by decide +kernel
  have separated : Name.Separated aes256.name.toList "Aes-_25 6".toList := by
    change Name.Separated ['A', 'E', 'S', '2', '5', '6']
      ['A', 'e', 's', '-', '_', '2', '5', ' ', '6']
    exact .cons rfl (.cons rfl (.cons rfl (.insert (.inl rfl) (.insert (.inr (.inl rfl))
      (.cons rfl (.cons rfl (.insert (.inr (.inr rfl)) (.cons rfl .nil))))))))
  have hname : prefixed.classify aes256.name = some aes256 := by decide +kernel
  refine ⟨by decide +kernel, separated, ?_⟩
  rw [(classify_separated prefixed hmem separated).1, hname]

end Registry

end CryptoAudit
