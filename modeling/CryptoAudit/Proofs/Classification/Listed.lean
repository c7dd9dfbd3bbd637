import CryptoAudit.Proofs.Classification.Canonical
import CryptoAudit.Proofs.Taxonomy.Listing
import CryptoAudit.Proofs.Text.Blank

/-!
# Listed names as raw names

A name that settings list is registered as the full form of what is left of it without the blanks
at its ends. A raw name keeps these blanks. Spaces are separators and do not matter, but any other
blank stays in the full form, which then names nothing. So a listed name denotes what it was
registered as exactly if that is one of its own forms.

## Main results

* `Name.fullForm_stripChars_cases`: the full form with and without the blanks at the ends
* `Registry.classify_listed`: what a listed name denotes
* `Registry.classify_listed_tab`: a listed name that denotes nothing
-/

namespace CryptoAudit

namespace Name

/-- No blank stands in a canonical name. -/
theorem isBlank_of_isCanonicalChar {c : Char} (h : isCanonicalChar c = true) :
    Text.isBlank c = false := by
  simp only [isCanonicalChar, Bool.or_eq_true, Bool.and_eq_true, decide_eq_true_eq] at h
  have hpoint : 65 ≤ c.toNat ∧ c.toNat ≤ 90 ∨ 48 ≤ c.toNat ∧ c.toNat ≤ 57 := h
  have hother : c.toNat ∉ Text.blankPoints := by
    simp only [Text.blankPoints, List.mem_cons, List.not_mem_nil, or_false]
    omega
  exact Bool.eq_false_iff.2 fun hblank => hother (Text.toNat_mem_blankPoints hblank)

/-- Of some blanks the full form keeps those that are no spaces. -/
theorem fullForm_of_blank {cs : List Char} (h : ∀ c ∈ cs, Text.isBlank c = true) :
    fullForm cs = cs.filter (· ≠ ' ') := by
  rw [fullForm, Text.upperChars_of_blank h, stripSeparators]
  refine List.filter_congr fun c hc => ?_
  by_cases hspace : c = ' '
  · rw [hspace]
    rfl
  · have hdash : c ≠ '-' := by
      rintro rfl
      exact absurd (h _ hc) (by decide)
    have hunderscore : c ≠ '_' := by
      rintro rfl
      exact absurd (h _ hc) (by decide)
    simp [isSeparator, hspace, hdash, hunderscore]

theorem fullForm_append (cs ds : List Char) :
    fullForm (cs ++ ds) = fullForm cs ++ fullForm ds := by
  rw [fullForm, Text.upperChars_append, stripSeparators_append, fullForm, fullForm]

/-- The full form does not change if only spaces are dropped at the ends. Else it has a blank. -/
theorem fullForm_stripChars_cases (cs : List Char) :
    fullForm cs = fullForm (Text.stripChars cs) ∨
      ∃ c ∈ cs, c ∈ fullForm cs ∧ Text.isBlank c = true ∧ c ≠ ' ' := by
  obtain ⟨before, after, hcs, hbefore, hafter⟩ := Text.exists_append_stripChars cs
  have hform : fullForm cs = before.filter (· ≠ ' ') ++
      (fullForm (Text.stripChars cs) ++ after.filter (· ≠ ' ')) := by
    rw [← fullForm_of_blank hbefore, ← fullForm_of_blank hafter, ← fullForm_append,
      ← fullForm_append, ← hcs]
  -- Spaces at the ends are dropped from the full form, but any other blank is kept there.
  by_cases hspaces : ∀ c ∈ before ++ after, c = ' '
  · left
    have hdrop {ds : List Char} (hds : ∀ c ∈ ds, c = ' ') : ds.filter (· ≠ ' ') = [] :=
      List.filter_eq_nil_iff.2 fun c hc => by simpa using hds c hc
    rw [hform, hdrop fun c hc => hspaces c (List.mem_append_left _ hc),
      hdrop fun c hc => hspaces c (List.mem_append_right _ hc), List.nil_append, List.append_nil]
  · right
    simp only [not_forall] at hspaces
    obtain ⟨c, hmem, hspace⟩ := hspaces
    have hkept : c ∈ (before ++ after).filter (· ≠ ' ') := List.mem_filter.2 ⟨hmem, by simpa⟩
    have hblank : Text.isBlank c = true := by
      rcases List.mem_append.1 hmem with hmem | hmem
      · exact hbefore c hmem
      · exact hafter c hmem
    refine ⟨c, ?_, ?_, hblank, hspace⟩
    · rw [hcs]
      rcases List.mem_append.1 hmem with hmem | hmem
      · exact List.mem_append_left _ hmem
      · exact List.mem_append_right _ (List.mem_append_right _ hmem)
    · rw [hform]
      rw [List.filter_append] at hkept
      rcases List.mem_append.1 hkept with hkept | hkept
      · exact List.mem_append_left _ hkept
      · exact List.mem_append_right _ (List.mem_append_right _ hkept)

theorem mem_forms_iff {raw form : String} :
    form ∈ forms raw ↔ form = full raw ∨ form = short raw := by
  rw [forms]
  split
  · rename_i hsame
    rw [hsame, or_self, List.mem_singleton]
  · rw [List.mem_pair]

end Name

namespace Registry

variable {r : Registry} {raw : String} {e : Entry}

/-- What a raw name denotes has one of its forms as name. -/
theorem name_mem_forms_of_classify (h : r.classify raw = some e) : e.name ∈ Name.forms raw := by
  rw [Name.mem_forms_iff]
  by_cases hfull : r.Has (Name.full raw)
  · exact .inl (mem_of_find? (classify_of_has_full hfull ▸ h)).2
  · exact .inr (mem_of_find? (classify_of_not_has_full hfull ▸ h)).2

/-- A name with a blank is not registered. -/
theorem not_has_of_blank {name : String} {c : Char} (hmem : c ∈ name.toList)
    (hblank : Text.isBlank c = true) : ¬r.Has name := by
  rintro ⟨e, -, rfl⟩
  have := Name.isBlank_of_isCanonicalChar (e.isCanonicalChar_of_mem c hmem)
  rw [hblank] at this
  cases this

theorem normalName_eq_full_strip (s : String) : normalName s = Name.full (Text.strip s) := by
  rw [normalName, Name.full, Text.strip, String.toList_ofList, Name.fullForm]

/-- A raw name finds an entry of its normalised name if that is registered and one of its forms. -/
theorem exists_classify_normalName_iff (h : r.Has (normalName raw)) :
    (∃ e, r.classify raw = some e ∧ e.name = normalName raw) ↔
      normalName raw ∈ Name.forms raw := by
  constructor
  · rintro ⟨e, he, hname⟩
    exact hname ▸ name_mem_forms_of_classify he
  · intro hform
    obtain ⟨e, he, -, hname⟩ := exists_find?_of_has h
    refine ⟨e, ?_, hname⟩
    rcases Name.fullForm_stripChars_cases raw.toList with hfull | ⟨c, -, hmem, hblank, -⟩
    · have hsame : Name.full raw = normalName raw := congrArg String.ofList hfull
      rw [← hsame] at h he
      rw [classify_of_has_full h, he]
    · -- The full form has a blank, so the name is the short form, and that decides.
      have hmem : c ∈ (Name.full raw).toList := by rwa [Name.full, String.toList_ofList]
      have hnot : ¬r.Has (Name.full raw) := not_has_of_blank hmem hblank
      rcases Name.mem_forms_iff.1 hform with hfull | hshort
      · exact absurd (hfull ▸ h) hnot
      · rw [classify_of_not_has_full hnot, ← hshort, he]

/-- A name that accepted settings list is registered in its category and with its strength, as the
full form of the name without the blanks at its ends. The listed spelling denotes an entry of that
name exactly if the name is one of its own forms, and that it is if it has no blanks but spaces. -/
theorem classify_listed {data : Value} (haccepted : (ofConfig data).outcome = .ok r)
    {c : Category} {isWeak : Bool} {s : String} (hlisted : Listed data c isWeak (.text s)) :
    (∃ e ∈ r.entries, e.category = c ∧ e.isWeak = isWeak ∧ e.name = normalName s) ∧
      normalName s = Name.full (Text.strip s) ∧
      ((∃ f, r.classify s = some f ∧ f.name = normalName s) ↔ normalName s ∈ Name.forms s) ∧
      ((∀ d ∈ s.toList, Text.isBlank d = true → d = ' ') →
        normalName s = Name.full s ∧ ∃ f, r.classify s = some f ∧ f.name = normalName s) := by
  obtain ⟨es, hes, hholds⟩ := exists_configEntries_of_ofConfig haccepted
  obtain ⟨e, he, hcategory, hstrength, hname⟩ := hlisted.exists_mem hes
  have hmem : e ∈ r.entries := hholds.mem_entries_iff.2 he
  have hhas : r.Has (normalName s) := ⟨e, hmem, hname⟩
  have hfound := exists_classify_normalName_iff hhas
  refine ⟨⟨e, hmem, hcategory, hstrength, hname⟩, normalName_eq_full_strip s, hfound, ?_⟩
  intro hspaces
  rcases Name.fullForm_stripChars_cases s.toList with hfull | ⟨d, hd, -, hblank, hspace⟩
  · have hsame : normalName s = Name.full s := (congrArg String.ofList hfull).symm
    exact ⟨hsame, hfound.2 (Name.mem_forms_iff.2 (.inl hsame))⟩
  · exact absurd (hspaces d hd hblank) hspace

/-- Settings that list two weak algorithms with blanks at the ends of their names. -/
def blankSettings : Value :=
  .map [(.text "algorithms", .map [(.text "Hashing", .map [(.text "weak",
    .list [.text " sha_1", .text "md5\t"])])])]

theorem exists_ofConfig_blankSettings :
    ∃ r, (ofConfig blankSettings).outcome = .ok r ∧ r.classify "md5\t" = none := by
  have hrun : (ofConfig blankSettings).outcome.toOption.map (·.classify "md5\t") = some none := by
    decide +kernel
  obtain ⟨r, hr, hclassify⟩ := Option.map_eq_some_iff.1 hrun
  exact ⟨r, eq_ok_of_toOption hr, hclassify⟩

/-- Both names are listed. -/
theorem listed_blankSettings {s : String} (h : s = " sha_1" ∨ s = "md5\t") :
    Listed blankSettings .hashing true (.text s) := by
  refine .intro rfl rfl List.mem_cons_self ?_ List.mem_cons_self rfl ?_
  · decide
  · rcases h with rfl | rfl
    · exact List.mem_cons_self
    · exact List.mem_cons_of_mem _ List.mem_cons_self

/-- A space in front of a listed name does not matter. -/
theorem classify_listed_space :
    ∃ r, (ofConfig blankSettings).outcome = .ok r ∧
      Listed blankSettings .hashing true (.text " sha_1") ∧
      ∃ f, r.classify " sha_1" = some f ∧ f.name = "SHA1" := by
  obtain ⟨r, haccepted, -⟩ := exists_ofConfig_blankSettings
  have hlisted := listed_blankSettings (.inl rfl)
  have hname : normalName " sha_1" = "SHA1" := by decide +kernel
  have honly : ∀ d ∈ " sha_1".toList, Text.isBlank d = true → d = ' ' := by
    have hall : (" sha_1".toList.all fun d => !Text.isBlank d || d == ' ') = true := by decide
    intro d hd hblank
    simpa [hblank] using List.all_eq_true.1 hall d hd
  obtain ⟨-, -, -, hspaces⟩ := classify_listed haccepted hlisted
  obtain ⟨f, hf, hfname⟩ := (hspaces honly).2
  exact ⟨r, haccepted, hlisted, f, hf, hfname.trans hname⟩

/-- A tab behind a listed name is dropped where the name is registered, and not where it is looked
up: the weak algorithm `MD5` is not found under the spelling that the settings give. -/
theorem classify_listed_tab :
    ∃ r, (ofConfig blankSettings).outcome = .ok r ∧
      Listed blankSettings .hashing true (.text "md5\t") ∧ normalName "md5\t" = "MD5" ∧
      r.classify "md5\t" = none := by
  obtain ⟨r, haccepted, hnone⟩ := exists_ofConfig_blankSettings
  exact ⟨r, haccepted, listed_blankSettings (.inr rfl), by decide +kernel, hnone⟩

end Registry

end CryptoAudit
