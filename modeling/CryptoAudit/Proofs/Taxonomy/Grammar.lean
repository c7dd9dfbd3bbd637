import CryptoAudit.Proofs.Taxonomy.Listing

/-!
# The grammar of settings

Settings for a taxonomy are a mapping whose `algorithms` are a mapping of categories, each of them
a mapping of groups, each of them a list of names. A category or a group may be left out by an
absent value. Which values are absent is a parameter of the grammar: nothing alone is what the
grammar means, and every value that does not count as present is what is accepted.

## Main definitions

* `Registry.listedItems`: the items that settings list, in their order
* `IsNameItem`: an item whose text is a name
* `GroupShape`, `CategoryShape`, `TaxonomyShape`: the grammar
* `TaxonomyError.RefusesContent`: the errors about what settings hold
* `Registry.Follows`: an outcome that agrees with a shape

## Main results

* `Registry.follows_gather`: a list of steps that each agree with a shape
* `Registry.follows_configCategory`: the entries of a category
* `Registry.configEntries_cases`: the entries of settings
* `Registry.ofConfig_accepts`: which settings are accepted, and how the others are refused
-/

namespace CryptoAudit

/-! ### The grammar -/

namespace Registry

/-- The items of a group, each with its category and strength. -/
def groupItems (c : Category) : Value × Value → List (Category × Bool × Value)
  | (key, names) =>
    match groupKey? key with
    | none => []
    | some (_, isWeak) =>
      match names with
      | .list items => items.map fun item => (c, isWeak, item)
      | _ => []

/-- The items of a category. -/
def categoryItems : Value × Value → List (Category × Bool × Value)
  | (key, groups) =>
    match Category.ofName? (Text.strip key.display) with
    | none => []
    | some c =>
      match groups with
      | .map groups => groups.flatMap (groupItems c)
      | _ => []

/-- The items that categories list, in their order. -/
def listedItems (categories : List (Value × Value)) : List (Category × Bool × Value) :=
  categories.flatMap categoryItems

/-- What an item stands for: its category, its strength and its normalised text. -/
def itemMeaning : Category × Bool × Value → Category × Bool × String
  | (c, isWeak, item) => (c, isWeak, normalName item.display)

/-- What an entry says, without the proof that its name is canonical. -/
def entryMeaning (e : Entry) : Category × Bool × String :=
  (e.category, e.isWeak, e.name)

end Registry

/-- The text of the item is a name once it is normalised. -/
def IsNameItem (item : Value) : Prop :=
  ∃ s, item.display? = some s ∧ IsCanonical (Registry.normalName s)

/-- A group is strong or weak, and it lists names or is absent. -/
structure GroupShape (absent : Value → Prop) (group : Value × Value) : Prop where
  key : group.1 = .text "strong" ∨ group.1 = .text "weak"
  names : absent group.2 ∨ ∃ items, group.2 = .list items ∧ ∀ item ∈ items, IsNameItem item

/-- A category has the name of one, blanks at the ends aside, and it maps groups or is absent. -/
structure CategoryShape (absent : Value → Prop) (category : Value × Value) : Prop where
  key : ∃ c : Category, Text.strip category.1.display = c.name
  groups : absent category.2 ∨
    ∃ groups, category.2 = .map groups ∧ ∀ group ∈ groups, GroupShape absent group

/-- The algorithms map at least one category, and no two names in a category are equal. -/
inductive TaxonomyShape (absent : Value → Prop) (fields : List (Value × Value)) : Prop
  | intro {categories : List (Value × Value)}
      (categories_eq : field? (.text "algorithms") fields = some (.map categories))
      (ne_nil : categories ≠ [])
      (shapes : ∀ category ∈ categories, CategoryShape absent category)
      (distinct : ((Registry.listedItems categories).map fun (c, _, item) =>
        (c, Registry.normalName item.display)).Nodup)

/-- The errors about what settings hold: all but those about settings that are no mapping, and
about tables that are not in settings. -/
def TaxonomyError.RefusesContent : TaxonomyError → Prop
  | .noAlgorithms | .unknownCategoryKey _ | .notGroups _ | .unknownGroupKey _ _ | .notNames _ _
  | .tooManyDigits | .invalidEntry _ | .duplicate _ _ => True
  | .notMapping _ | .unknownCategory _ | .unknownGroup _ _ => False

section Mono

variable {absent absent' : Value → Prop} (h : ∀ v, absent v → absent' v)

include h

theorem GroupShape.mono {group : Value × Value} (hgroup : GroupShape absent group) :
    GroupShape absent' group :=
  ⟨hgroup.key, hgroup.names.imp_left (h _)⟩

theorem CategoryShape.mono {category : Value × Value} (hcategory : CategoryShape absent category) :
    CategoryShape absent' category := by
  refine ⟨hcategory.key, hcategory.groups.imp (h _) ?_⟩
  rintro ⟨groups, hgroups, hshapes⟩
  exact ⟨groups, hgroups, fun group hgroup => (hshapes group hgroup).mono h⟩

/-- The more values are absent, the more settings have the shape. -/
theorem TaxonomyShape.mono {fields : List (Value × Value)} (hfields : TaxonomyShape absent fields) :
    TaxonomyShape absent' fields := by
  obtain ⟨heq, hne, hshapes, hdistinct⟩ := hfields
  exact ⟨heq, hne, fun category hcategory => (hshapes category hcategory).mono h, hdistinct⟩

end Mono

namespace Registry

/-! ### Outcomes that agree with a shape -/

/-- An outcome agrees with a shape and items: there are entries exactly if the shape is right, and
they say what the items mean. Otherwise the content is refused. -/
def Follows (shape : Prop) (items : List (Category × Bool × Value)) :
    Except TaxonomyError (List Entry) → Prop
  | .ok es => shape ∧ es.map entryMeaning = items.map itemMeaning
  | .error e => ¬shape ∧ e.RefusesContent

theorem Follows.congr {shape shape' : Prop} {items : List (Category × Bool × Value)}
    {x : Except TaxonomyError (List Entry)} (hshape : shape ↔ shape') (h : Follows shape items x) :
    Follows shape' items x :=
  propext hshape ▸ h

/-- If every step agrees with a shape, all of them in a row agree with all shapes. -/
theorem follows_gather {α : Type} {f : α → Except TaxonomyError (List Entry)} {shape : α → Prop}
    {items : α → List (Category × Bool × Value)} (step : ∀ x, Follows (shape x) (items x) (f x))
    (xs : List α) : Follows (∀ x ∈ xs, shape x) (xs.flatMap items) (gather f xs) := by
  induction xs with
  | nil => exact ⟨fun x hx => absurd hx List.not_mem_nil, rfl⟩
  | cons x xs ih =>
    have hx := step x
    cases hfx : f x with
    | error e =>
      rw [hfx] at hx
      rw [gather_error_cons hfx]
      exact ⟨fun h => hx.1 (h x List.mem_cons_self), hx.2⟩
    | ok es =>
      rw [hfx] at hx
      cases hrest : gather f xs with
      | error e =>
        rw [hrest] at ih
        rw [gather, hfx, hrest]
        exact ⟨fun h => ih.1 fun y hy => h y (List.mem_cons_of_mem x hy), ih.2⟩
      | ok fs =>
        rw [hrest] at ih
        rw [gather_eq_ok_cons hfx hrest]
        refine ⟨List.forall_mem_cons.2 ⟨hx.1, ih.1⟩, ?_⟩
        rw [List.map_append, hx.2, ih.2, List.flatMap_cons, List.map_append]

/-! ### The steps through settings -/

/-- A value that does not count as present. -/
def IsAbsent (v : Value) : Prop :=
  v.isTruthy = false

theorem eq_nil_of_isAbsent_list {items : List Value} (h : IsAbsent (.list items)) : items = [] := by
  simpa [IsAbsent, Value.isTruthy] using h

theorem eq_nil_of_isAbsent_map {entries : List (Value × Value)} (h : IsAbsent (.map entries)) :
    entries = [] := by
  simpa [IsAbsent, Value.isTruthy] using h

theorem groupKey?_isSome_iff {key : Value} :
    (groupKey? key).isSome = true ↔ key = .text "strong" ∨ key = .text "weak" := by
  cases key with
  | text s =>
    rw [groupKey?, Option.isSome_map, isWeakGroup?]
    by_cases hstrong : s = "strong"
    · simp [hstrong]
    · by_cases hweak : s = "weak" <;> simp [hstrong, hweak]
  | _ => simp [groupKey?]

theorem ofName?_isSome_iff {s : String} :
    (Category.ofName? s).isSome = true ↔ ∃ c : Category, s = c.name := by
  constructor
  · intro h
    obtain ⟨c, hc⟩ := Option.isSome_iff_exists.1 h
    exact ⟨c, (Category.name_of_ofName? hc).symm⟩
  · rintro ⟨c, rfl⟩
    rw [Category.ofName?_name, Option.isSome_some]

/-- An item has an entry exactly if its text is a name. -/
theorem follows_configEntry (c : Category) (isWeak : Bool) (item : Value) :
    Follows (IsNameItem item) [(c, isWeak, item)] (configEntry c isWeak item) := by
  cases hitem : item.display? with
  | none =>
    simp only [configEntry, hitem]
    refine ⟨?_, trivial⟩
    rintro ⟨s, hs, -⟩
    exact absurd (hitem.symm.trans hs) (Option.some_ne_none s).symm
  | some s =>
    by_cases hcanonical : IsCanonical (normalName s)
    · rw [configEntry_of_display? c isWeak hitem, dif_pos hcanonical]
      obtain ⟨-, rfl⟩ := Value.display?_eq_some_iff.1 hitem
      exact ⟨⟨_, hitem, hcanonical⟩, rfl⟩
    · rw [configEntry_of_display? c isWeak hitem, dif_neg hcanonical]
      refine ⟨?_, trivial⟩
      rintro ⟨t, ht, hname⟩
      obtain rfl := Option.some.inj (hitem.symm.trans ht)
      exact hcanonical hname

/-- A value that is a collection, or else absent. The collection is visited item by item, an absent
value has no items, and every other value is refused. -/
theorem follows_collection {α : Type} {f : α → Except TaxonomyError (List Entry)}
    {shape : α → Prop} {items : α → List (Category × Bool × Value)}
    (step : ∀ x, Follows (shape x) (items x) (f x)) {collection : List α → Value}
    (injective : Function.Injective collection)
    (nil_of_absent : ∀ xs, IsAbsent (collection xs) → xs = []) (v : Value) {e : TaxonomyError}
    (refuses : e.RefusesContent) {found : List (Category × Bool × Value)}
    {outcome : Except TaxonomyError (List Entry)}
    (visits : ∀ xs, v = collection xs → found = xs.flatMap items ∧ outcome = gather f xs)
    (other : (∀ xs, v ≠ collection xs) →
      found = [] ∧ outcome = if !v.isTruthy then .ok [] else .error e) :
    Follows (IsAbsent v ∨ ∃ xs, v = collection xs ∧ ∀ x ∈ xs, shape x) found outcome := by
  by_cases hcollection : ∃ xs, v = collection xs
  · obtain ⟨xs, rfl⟩ := hcollection
    obtain ⟨rfl, rfl⟩ := visits xs rfl
    refine (follows_gather step xs).congr ⟨fun h => .inr ⟨xs, rfl, h⟩, ?_⟩
    rintro (habsent | ⟨xs', heq, h⟩)
    · rw [nil_of_absent xs habsent]
      exact fun x hx => absurd hx List.not_mem_nil
    · exact injective heq ▸ h
  · rw [not_exists] at hcollection
    obtain ⟨rfl, rfl⟩ := other hcollection
    cases htruthy : v.isTruthy with
    | false => exact ⟨.inl htruthy, rfl⟩
    | true =>
      refine ⟨?_, refuses⟩
      rintro (habsent | ⟨xs, heq, -⟩)
      · exact absurd (htruthy.symm.trans habsent) Bool.false_ne_true.symm
      · exact hcollection xs heq

/-- A group has entries exactly if it has the shape of one. -/
theorem follows_configGroup (c : Category) (group : Value × Value) :
    Follows (GroupShape IsAbsent group) (groupItems c group) (configGroup c group) := by
  obtain ⟨key, names⟩ := group
  cases hkey : groupKey? key with
  | none =>
    have hrefused : configGroup c (key, names) = .error (.unknownGroupKey c key) := by
      simp only [configGroup, hkey]
    rw [hrefused]
    refine ⟨fun hshape => ?_, trivial⟩
    have := groupKey?_isSome_iff.2 hshape.key
    rw [hkey] at this
    cases this
  | some found =>
    obtain ⟨name, isWeak⟩ := found
    have hname : key = .text "strong" ∨ key = .text "weak" :=
      groupKey?_isSome_iff.1 (by rw [hkey, Option.isSome_some])
    have hrefuses : (TaxonomyError.notNames c name).RefusesContent := trivial
    refine (follows_collection (follows_configEntry c isWeak) (fun _ _ => Value.list.inj)
      (fun _ => eq_nil_of_isAbsent_list) names hrefuses ?visits ?other).congr
        ⟨fun h => ⟨hname, h⟩, GroupShape.names⟩
    case visits =>
      rintro items rfl
      exact ⟨by simp only [groupItems, hkey, List.map_eq_flatMap], configGroup_list c hkey items⟩
    case other =>
      intro hother
      exact ⟨by simp only [groupItems, hkey], by simp only [configGroup, hkey]⟩

/-- A category has entries exactly if it has the shape of one. -/
theorem follows_configCategory (category : Value × Value) :
    Follows (CategoryShape IsAbsent category) (categoryItems category)
      (configCategory category) := by
  obtain ⟨key, groups⟩ := category
  cases hkey : Category.ofName? (Text.strip key.display) with
  | none =>
    have hrefused : configCategory (key, groups) = .error (.unknownCategoryKey key) := by
      simp only [configCategory, hkey]
    rw [hrefused]
    refine ⟨fun hshape => ?_, trivial⟩
    have := ofName?_isSome_iff.2 hshape.key
    rw [hkey] at this
    cases this
  | some c =>
    have hname : ∃ c : Category, Text.strip key.display = c.name :=
      ofName?_isSome_iff.1 (by rw [hkey, Option.isSome_some])
    have hrefuses : (TaxonomyError.notGroups c).RefusesContent := trivial
    refine (follows_collection (follows_configGroup c) (fun _ _ => Value.map.inj)
      (fun _ => eq_nil_of_isAbsent_map) groups hrefuses ?visits ?other).congr
        ⟨fun h => ⟨hname, h⟩, CategoryShape.groups⟩
    case visits =>
      rintro groups rfl
      exact ⟨by simp only [categoryItems, hkey], configCategory_map hkey groups⟩
    case other =>
      intro hother
      exact ⟨by simp only [categoryItems, hkey], by simp only [configCategory, hkey]⟩

/-! ### Settings as a whole -/

/-- Settings without a mapping of algorithms, or with an empty one, have no entries. -/
theorem configEntries_of_no_algorithms {fields : List (Value × Value)}
    (h : ∀ category categories,
      field? (Value.text "algorithms") fields ≠ some (.map (category :: categories))) :
    configEntries (.map fields) = .error .noAlgorithms := by
  simp only [configEntries]

/-- Settings with algorithms have the entries of the categories. -/
theorem configEntries_of_algorithms {fields : List (Value × Value)} {category : Value × Value}
    {categories : List (Value × Value)}
    (h : field? (Value.text "algorithms") fields = some (.map (category :: categories))) :
    configEntries (.map fields) = gather configCategory (category :: categories) := by
  simp only [configEntries, h]

/-- Settings have entries exactly if their algorithms are categories of the right shape. The entries
say what the listed items mean. -/
theorem configEntries_cases (fields : List (Value × Value)) :
    (∃ categories es, field? (.text "algorithms") fields = some (.map categories) ∧
        categories ≠ [] ∧ (∀ category ∈ categories, CategoryShape IsAbsent category) ∧
        configEntries (.map fields) = .ok es ∧
        es.map entryMeaning = (listedItems categories).map itemMeaning) ∨
      ∃ e, configEntries (.map fields) = .error e ∧ e.RefusesContent ∧
        ∀ categories, field? (.text "algorithms") fields = some (.map categories) →
          categories ≠ [] → ¬∀ category ∈ categories, CategoryShape IsAbsent category := by
  by_cases hsome : ∃ category categories,
      field? (Value.text "algorithms") fields = some (.map (category :: categories))
  · obtain ⟨category, categories, hfield⟩ := hsome
    have hfollows := follows_gather follows_configCategory (category :: categories)
    rw [configEntries_of_algorithms hfield]
    cases hes : gather configCategory (category :: categories) with
    | ok es =>
      rw [hes] at hfollows
      exact .inl ⟨_, es, hfield, List.cons_ne_nil _ _, hfollows.1, rfl, hfollows.2⟩
    | error e =>
      rw [hes] at hfollows
      refine .inr ⟨e, rfl, hfollows.2, fun categories' hfield' _ => ?_⟩
      cases hfield.symm.trans hfield'
      exact hfollows.1
  · simp only [not_exists] at hsome
    refine .inr ⟨_, configEntries_of_no_algorithms hsome, trivial, fun categories hfield hne => ?_⟩
    cases categories with
    | nil => exact absurd rfl hne
    | cons category categories => exact absurd hfield (hsome category categories)

/-- The outcome is that of inserting the entries, if there are any. -/
theorem outcome_ofConfig (data : Value) :
    (ofConfig data).outcome = configEntries data >>= ofEntries := by
  rw [ofConfig]
  cases configEntries data with
  | error e => rfl
  | ok es =>
    change (build es).outcome = ofEntries es
    rw [build]
    cases ofEntries es <;> rfl

/-- Entries do not clash exactly if no two of them say the same of a category and a name. -/
theorem distinct_iff_nodup_meanings {es : List Entry} :
    Distinct es ↔ ((es.map entryMeaning).map fun meaning => (meaning.1, meaning.2.2)).Nodup := by
  rw [Distinct, List.map_map, List.Nodup, List.pairwise_map]
  simp only [Clash, Function.comp_apply, entryMeaning, ne_eq, Prod.mk.injEq]

/-- Entries do not clash exactly if the items that they stand for have different meanings. -/
theorem distinct_iff_nodup_items {es : List Entry} {items : List (Category × Bool × Value)}
    (h : es.map entryMeaning = items.map itemMeaning) :
    Distinct es ↔ (items.map fun (c, _, item) => (c, normalName item.display)).Nodup := by
  rw [distinct_iff_nodup_meanings, h, List.map_map]
  rfl

/-- Settings of the right shape are accepted, and the content of all others is refused. -/
theorem ofConfig_cases (fields : List (Value × Value)) :
    (∃ r, (ofConfig (.map fields)).outcome = .ok r) ∧ TaxonomyShape IsAbsent fields ∨
      ∃ e, (ofConfig (.map fields)).outcome = .error e ∧ ¬TaxonomyShape IsAbsent fields ∧
        e.RefusesContent := by
  rw [outcome_ofConfig]
  rcases configEntries_cases fields with
    ⟨categories, es, hfield, hne, hshapes, hes, hmeanings⟩ | ⟨e, he, hrefuses, hshapes⟩
  · rw [hes]
    change (∃ r, ofEntries es = .ok r) ∧ _ ∨ ∃ e, ofEntries es = .error e ∧ _
    have hdistinct := distinct_iff_nodup_items hmeanings
    rcases ofEntries_cases es with
      ⟨r, hr, -, hnoclash⟩ | ⟨before, e, after, rfl, -, ⟨f, hf, hclash⟩, hr⟩
    · exact .inl ⟨⟨r, hr⟩, .intro hfield hne hshapes (hdistinct.1 hnoclash)⟩
    · refine .inr ⟨_, hr, ?_, trivial⟩
      rintro ⟨heq, -, -, hnodup⟩
      cases hfield.symm.trans heq
      exact (List.pairwise_append.1 (hdistinct.2 hnodup)).2.2 f hf e List.mem_cons_self hclash
  · rw [he]
    refine .inr ⟨e, rfl, ?_, hrefuses⟩
    rintro ⟨heq, hne, hshapes', -⟩
    exact hshapes _ heq hne hshapes'

/-- Settings which are a mapping are accepted exactly if they follow the grammar in which every
value that does not count as present is absent. All that follow the grammar in which nothing alone
is absent are among them. The content of all other settings is refused. -/
theorem ofConfig_accepts (fields : List (Value × Value)) :
    ((∃ r, (ofConfig (.map fields)).outcome = .ok r) ↔
        TaxonomyShape IsAbsent fields) ∧
      (TaxonomyShape (· = .null) fields → ∃ r, (ofConfig (.map fields)).outcome = .ok r) ∧
      ∀ e, (ofConfig (.map fields)).outcome = .error e → e.RefusesContent := by
  have haccepted : (∃ r, (ofConfig (.map fields)).outcome = .ok r) ↔
      TaxonomyShape IsAbsent fields := by
    rcases ofConfig_cases fields with ⟨hok, hshape⟩ | ⟨e, herror, hshape, -⟩
    · exact iff_of_true hok hshape
    · refine iff_of_false ?_ hshape
      rintro ⟨r, hr⟩
      cases herror.symm.trans hr
  refine ⟨haccepted, fun hnull => ?_, fun e herror => ?_⟩
  · refine haccepted.2 (hnull.mono ?_)
    rintro v rfl
    rfl
  · rcases ofConfig_cases fields with ⟨⟨r, hr⟩, -⟩ | ⟨e', herror', -, hrefuses⟩
    · cases herror.symm.trans hr
    · cases herror.symm.trans herror'
      exact hrefuses

/-- Fields with a category and a group that are left out, and with a number as a name. -/
def sparseFields : List (Value × Value) :=
  [(.text "algorithms", .map [(.text " Hashing\n", .map [(.text "strong", .null),
    (.text "weak", .list [.text "md-5", .int 3])]), (.text "Encryption", .null)])]

/-- What is left out does not stand in the way of the rest. -/
theorem ofConfig_accepts_sparse :
    TaxonomyShape (· = .null) sparseFields ∧
      ∃ r, (ofConfig (.map sparseFields)).outcome = .ok r := by
  have hitems : ∀ item ∈ [Value.text "md-5", .int 3], IsNameItem item :=
    List.forall_mem_cons.2 ⟨⟨"md-5", rfl, by decide +kernel⟩,
      List.forall_mem_singleton.2 ⟨"3", by decide +kernel, by decide +kernel⟩⟩
  have hshape : TaxonomyShape (· = .null) sparseFields := by
    refine .intro rfl (List.cons_ne_nil _ _) (List.forall_mem_cons.2 ⟨?hashing,
      List.forall_mem_singleton.2 ⟨⟨.encryption, by decide⟩, .inl rfl⟩⟩) (by decide +kernel)
    case hashing =>
      refine ⟨⟨.hashing, by decide⟩, .inr ⟨_, rfl, List.forall_mem_cons.2 ⟨?strong,
        List.forall_mem_singleton.2 ⟨.inr rfl, .inr ⟨_, rfl, hitems⟩⟩⟩⟩⟩
      exact ⟨.inl rfl, .inl rfl⟩
  exact ⟨hshape, (ofConfig_accepts sparseFields).2.1 hshape⟩

/-- Fields with a number in place of a list. -/
def zeroFields : List (Value × Value) :=
  [(.text "algorithms", .map [(.text "Hashing", .map [(.text "weak", .int 0)])])]

/-- Zero does not count as present, so it is accepted although it is neither nothing nor a list. -/
theorem ofConfig_accepts_zero :
    (∃ r, (ofConfig (.map zeroFields)).outcome = .ok r) ∧
      ¬TaxonomyShape (· = .null) zeroFields := by
  refine ⟨⟨_, rfl⟩, ?_⟩
  rintro ⟨heq, -, hshapes, -⟩
  cases heq
  obtain ⟨-, hnull | ⟨groups, hgroups, hshapes⟩⟩ := hshapes _ List.mem_cons_self
  · cases hnull
  · cases hgroups
    obtain ⟨-, hnull | ⟨items, hitems, -⟩⟩ := hshapes _ List.mem_cons_self
    · cases hnull
    · cases hitems

end Registry

end CryptoAudit
