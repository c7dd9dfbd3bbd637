import CryptoAudit.Proofs.Taxonomy.ItemText

/-!
# Entries and the items they come from

Every entry of a registry from settings comes from an item that the settings list, and the item is
a value whose text is a name. Settings that list any other value are refused. But text and integers
are not the only values of that kind: an item that was left empty is registered too, under the name
of nothing, and so are truth values, dates and some numbers. A raw name that reads like such an item
denotes an algorithm.

## Main results

* `Registry.listed_iff_mem`: what settings list, as a list
* `Registry.Listed.isNameItem`: settings that are accepted list names
* `Registry.classify_items`: which items are refused, and what becomes of the others
* `Registry.classify_null_item`: a raw name that an empty item turns into an algorithm
-/

namespace CryptoAudit.Registry

section Items

variable {c d : Category} {isWeak : Bool} {item : Value}

theorem mem_groupItems_iff {group : Value × Value} :
    (d, isWeak, item) ∈ groupItems c group ↔
      d = c ∧ ∃ name items, groupKey? group.1 = some (name, isWeak) ∧ group.2 = .list items ∧
        item ∈ items := by
  obtain ⟨key, names⟩ := group
  cases hkey : groupKey? key with
  | none => simp [groupItems, hkey]
  | some found =>
    cases names with
    | list items =>
      simp only [groupItems, hkey, List.mem_map, Prod.mk.injEq, Option.some.injEq, Value.list.injEq]
      constructor
      · rintro ⟨_, hmem, rfl, rfl, rfl⟩
        exact ⟨rfl, found.1, items, rfl, rfl, hmem⟩
      · rintro ⟨rfl, name, _, rfl, rfl, hmem⟩
        exact ⟨item, hmem, rfl, rfl, rfl⟩
    | _ => simp [groupItems, hkey]

theorem mem_categoryItems_iff {category : Value × Value} :
    (c, isWeak, item) ∈ categoryItems category ↔
      Category.ofName? (Text.strip category.1.display) = some c ∧ ∃ groups,
        category.2 = .map groups ∧ ∃ group ∈ groups, (c, isWeak, item) ∈ groupItems c group := by
  obtain ⟨key, groups⟩ := category
  cases hkey : Category.ofName? (Text.strip key.display) with
  | none => simp [categoryItems, hkey]
  | some d =>
    cases groups with
    | map groups =>
      simp only [categoryItems, hkey, List.mem_flatMap, Option.some.injEq, Value.map.injEq]
      constructor
      · rintro ⟨group, hgroup, hmem⟩
        obtain ⟨rfl, -⟩ := mem_groupItems_iff.1 hmem
        exact ⟨rfl, groups, rfl, group, hgroup, hmem⟩
      · rintro ⟨rfl, _, rfl, hgroup⟩
        exact hgroup
    | _ => simp [categoryItems, hkey]

/-- What settings list is what stands in the lists of their groups. -/
theorem listed_iff_mem {data : Value} :
    Listed data c isWeak item ↔ ∃ fields categories, data = .map fields ∧
      field? (.text "algorithms") fields = some (.map categories) ∧
        (c, isWeak, item) ∈ listedItems categories := by
  constructor
  · rintro ⟨hdata, hcategories, hcategory, hname, hgroup, hkey, hitem⟩
    refine ⟨_, _, hdata, hcategories, List.mem_flatMap.2 ⟨_, hcategory, ?_⟩⟩
    refine mem_categoryItems_iff.2 ⟨hname, _, rfl, _, hgroup, ?_⟩
    exact mem_groupItems_iff.2 ⟨rfl, _, _, hkey, rfl, hitem⟩
  · rintro ⟨fields, categories, hdata, hcategories, hmem⟩
    obtain ⟨⟨key, groups⟩, hcategory, hmem⟩ := List.mem_flatMap.1 hmem
    obtain ⟨hname, _, rfl, ⟨groupKey, names⟩, hgroup, hmem⟩ := mem_categoryItems_iff.1 hmem
    obtain ⟨-, name, _, hkey, rfl, hitem⟩ := mem_groupItems_iff.1 hmem
    exact ⟨hdata, hcategories, hcategory, hname, hgroup, hkey, hitem⟩

/-- Where the shape of settings is right, every item that they list is a name. -/
theorem Listed.isNameItem {fields : List (Value × Value)}
    (h : Listed (.map fields) c isWeak item) (hshape : TaxonomyShape IsAbsent fields) :
    IsNameItem item := by
  obtain ⟨hfields, hcategories, hcategory, -, hgroup, -, hitem⟩ := h
  cases hfields
  obtain ⟨heq, -, hshapes, -⟩ := hshape
  cases hcategories.symm.trans heq
  obtain ⟨-, habsent | ⟨groups, hgroups, hshapes⟩⟩ := hshapes _ hcategory
  · exact absurd (eq_nil_of_isAbsent_map habsent ▸ hgroup) List.not_mem_nil
  · cases hgroups
    obtain ⟨-, habsent | ⟨items, hitems, hnames⟩⟩ := hshapes _ hgroup
    · exact absurd (eq_nil_of_isAbsent_list habsent ▸ hitem) List.not_mem_nil
    · cases hitems
      exact hnames _ hitem

end Items

section Accepted

variable {r : Registry} {data : Value}

/-- Every entry comes from an item that the settings list. -/
theorem exists_listed_of_mem_entries (h : (ofConfig data).outcome = .ok r) {e : Entry}
    (he : e ∈ r.entries) :
    ∃ item, Listed data e.category e.isWeak item ∧ e.name = normalName item.display := by
  obtain ⟨es, hes, hholds⟩ := exists_configEntries_of_ofConfig h
  cases data with
  | map fields =>
    rcases configEntries_cases fields with
      ⟨categories, es', hfield, -, -, hes', hmeanings⟩ | ⟨error, herror, -, -⟩
    · cases hes.symm.trans hes'
      have hmem : entryMeaning e ∈ (listedItems categories).map itemMeaning :=
        hmeanings ▸ List.mem_map_of_mem (hholds.mem_entries_iff.1 he)
      obtain ⟨⟨c, isWeak, item⟩, hitem, heq⟩ := List.mem_map.1 hmem
      simp only [itemMeaning, entryMeaning, Prod.mk.injEq] at heq
      obtain ⟨rfl, rfl, hname⟩ := heq
      exact ⟨item, listed_iff_mem.2 ⟨fields, categories, rfl, hfield, hitem⟩, hname.symm⟩
    · cases hes.symm.trans herror
  | _ => cases hes

/-- An item of accepted settings has a name as its text, and the content of other settings with an
item is refused. -/
theorem Listed.naming_or_refused {c : Category} {isWeak : Bool} {item : Value}
    (h : Listed data c isWeak item) :
    (∃ r, (ofConfig data).outcome = .ok r) ∧ item.IsNaming ∨
      ∃ e, (ofConfig data).outcome = .error e ∧ e.RefusesContent := by
  obtain ⟨fields, -, rfl, -, -⟩ := listed_iff_mem.1 h
  rcases ofConfig_cases fields with ⟨haccepted, hshape⟩ | ⟨e, he, -, hrefuses⟩
  · exact .inl ⟨haccepted, item.isNameItem_iff_isNaming.1 (h.isNameItem hshape)⟩
  · exact .inr ⟨e, he, hrefuses⟩

/-- A raw name with a form that is registered denotes something. -/
theorem exists_classify_of_has {raw form : String} (hform : form ∈ Name.forms raw)
    (h : r.Has form) : ∃ f, r.classify raw = some f := by
  cases hnone : r.classify raw with
  | some f => exact ⟨f, rfl⟩
  | none =>
    obtain ⟨hfull, hshort⟩ := classify_eq_none_iff.1 hnone
    rcases Name.mem_forms_iff.1 hform with rfl | rfl
    · exact absurd h hfull
    · exact absurd h hshort

end Accepted

/-- Settings that list a value whose text is no name are refused. Otherwise the entries are those of
the items, each under the text of its item, and the raw names that denote an algorithm are those
with such a text as a form. -/
theorem classify_items (data : Value) :
    (∀ c isWeak item, Listed data c isWeak item → ¬item.IsNaming →
        ∃ e, (ofConfig data).outcome = .error e ∧ e.RefusesContent) ∧
      ∀ r, (ofConfig data).outcome = .ok r →
        (∀ e ∈ r.entries, ∃ item, Listed data e.category e.isWeak item ∧ item.IsNaming ∧
          e.name = normalName item.display) ∧
        (∀ c isWeak item, Listed data c isWeak item → ∃ e ∈ r.entries,
          e.category = c ∧ e.isWeak = isWeak ∧ e.name = normalName item.display) ∧
        ∀ raw, (∃ f, r.classify raw = some f) ↔ ∃ c isWeak item,
          Listed data c isWeak item ∧ normalName item.display ∈ Name.forms raw := by
  refine ⟨?refused, fun r hr => ?accepted⟩
  case refused =>
    intro c isWeak item hlisted hbad
    rcases hlisted.naming_or_refused with ⟨-, hnaming⟩ | hrefused
    · exact absurd hnaming hbad
    · exact hrefused
  case accepted =>
    obtain ⟨es, hes, hholds⟩ := exists_configEntries_of_ofConfig hr
    have hregistered (c isWeak item) (hlisted : Listed data c isWeak item) : ∃ e ∈ r.entries,
        e.category = c ∧ e.isWeak = isWeak ∧ e.name = normalName item.display := by
      obtain ⟨e, he, heq⟩ := hlisted.exists_mem hes
      exact ⟨e, hholds.mem_entries_iff.2 he, heq⟩
    refine ⟨fun e he => ?_, hregistered, fun raw => ⟨?_, ?_⟩⟩
    · obtain ⟨item, hlisted, hname⟩ := exists_listed_of_mem_entries hr he
      rcases hlisted.naming_or_refused with ⟨-, hnaming⟩ | ⟨e', he', -⟩
      · exact ⟨item, hlisted, hnaming, hname⟩
      · cases hr.symm.trans he'
    · rintro ⟨f, hf⟩
      obtain ⟨item, hlisted, hname⟩ := exists_listed_of_mem_entries hr (earliest_of_classify hf).1
      exact ⟨_, _, item, hlisted, hname ▸ name_mem_forms_of_classify hf⟩
    · rintro ⟨c, isWeak, item, hlisted, hform⟩
      obtain ⟨e, he, -, -, hname⟩ := hregistered c isWeak item hlisted
      exact exists_classify_of_has hform ⟨e, he, hname⟩

/-- Settings that list weak hash algorithms. -/
def weakHashes (items : List Value) : Value :=
  .map [(.text "algorithms", .map [(.text "Hashing", .map [(.text "weak", .list items)])])]

theorem listed_weakHashes {items : List Value} {c : Category} {isWeak : Bool} {item : Value} :
    Listed (weakHashes items) c isWeak item ↔ c = .hashing ∧ isWeak = true ∧ item ∈ items := by
  have hitems : listedItems [(.text "Hashing", .map [(.text "weak", .list items)])] =
      items.map fun item => (Category.hashing, true, item) := by
    have hcategory : Category.ofName? (Text.strip (Value.text "Hashing").display) =
        some .hashing := by decide
    have hgroup : groupKey? (.text "weak") = some ("weak", true) := by decide
    simp only [listedItems, categoryItems, groupItems, hcategory, hgroup, List.flatMap_cons,
      List.flatMap_nil, List.append_nil]
  rw [listed_iff_mem]
  constructor
  · rintro ⟨fields, categories, hdata, hcategories, hmem⟩
    cases hdata
    cases hcategories
    rw [hitems, List.mem_map] at hmem
    obtain ⟨_, hitem, heq⟩ := hmem
    cases heq
    exact ⟨rfl, rfl, hitem⟩
  · rintro ⟨rfl, rfl, hitem⟩
    exact ⟨_, _, rfl, rfl, hitems ▸ List.mem_map_of_mem hitem⟩

/-- A number is registered, and a list in the place of a name is refused. -/
theorem classify_items_number :
    (∃ r, (ofConfig (weakHashes [.text "md-5", .int 3])).outcome = .ok r ∧
        ∃ f, r.classify "3-CBC" = some f) ∧
      ∃ e, (ofConfig (weakHashes [.text "md-5", .list []])).outcome = .error e ∧
        e.RefusesContent := by
  constructor
  · have hrun : (ofConfig (weakHashes [.text "md-5", .int 3])).outcome.toOption.isSome = true := by
      decide +kernel
    obtain ⟨r, hr⟩ := Option.isSome_iff_exists.1 hrun
    have hr := eq_ok_of_toOption hr
    refine ⟨r, hr, (((classify_items _).2 r hr).2.2 "3-CBC").2 ⟨.hashing, true, .int 3, ?_, ?_⟩⟩
    · exact listed_weakHashes.2 ⟨rfl, rfl, List.mem_cons_of_mem _ List.mem_cons_self⟩
    · decide +kernel
  · refine (classify_items _).1 .hashing true (.list []) (listed_weakHashes.2 ⟨rfl, rfl, ?_⟩) id
    exact List.mem_cons_of_mem _ List.mem_cons_self

/-- An item that was left empty makes an algorithm of a name that nobody listed: what is listed is
nothing, and a raw name that reads like it is a weak algorithm. -/
theorem classify_null_item :
    (∀ c isWeak item, Listed (weakHashes [.null]) c isWeak item → item = .null) ∧
      ∃ r, (ofConfig (weakHashes [.null])).outcome = .ok r ∧
        ∃ f, r.classify "none" = some f ∧ f.name = "NONE" ∧ f.isWeak = true := by
  constructor
  · intro c isWeak item hlisted
    exact List.mem_singleton.1 (listed_weakHashes.1 hlisted).2.2
  · have hrun : (ofConfig (weakHashes [.null])).outcome.toOption.map
        (fun r => (r.classify "none").map fun f => (f.name, f.isWeak)) =
          some (some ("NONE", true)) := by
      decide +kernel
    obtain ⟨r, hr, hclassify⟩ := Option.map_eq_some_iff.1 hrun
    obtain ⟨f, hf, hfields⟩ := Option.map_eq_some_iff.1 hclassify
    exact ⟨r, eq_ok_of_toOption hr, f, hf, congrArg Prod.fst hfields, congrArg Prod.snd hfields⟩

end CryptoAudit.Registry
