import CryptoAudit.Proofs.Outcome
import CryptoAudit.Proofs.Taxonomy.Insertion
import CryptoAudit.Taxonomy.Config

/-!
# Tables in settings

A table of names can be given in settings, or as it is if its names are canonical. Both ways the
names are visited in the same order, with the same categories and strengths. So a table in settings
becomes what the table of its normalised names becomes: the first name that is not canonical is
refused, and if there is none the entries are inserted in the order of the names.

## Main definitions

* `NameTable`: names by category and strength
* `NameTable.items`: the names in their order
* `NameTable.toSettings`, `NameTable.normalized`: a table in settings, and with normalised names

## Main results

* `Registry.namedEntry_text`: the entry of one name
* `Registry.configEntries_toSettings`, `Registry.tableEntries_normalized`: the entries of a table
* `Registry.ofConfig_toSettings`: the registry of a table
-/

namespace CryptoAudit

/-- For each category groups of names, each with whether its algorithms are weak. -/
abbrev NameTable := List (Category × List (Bool × List String))

namespace NameTable

/-- The key of a group. -/
def groupName (isWeak : Bool) : String :=
  if isWeak then "weak" else "strong"

/-- The names in their order, each with its category and strength. -/
def items (table : NameTable) : List (Category × Bool × String) :=
  table.flatMap fun (c, groups) => groups.flatMap fun (isWeak, names) =>
    names.map fun name => (c, isWeak, name)

/-- The settings that list the names. -/
def toSettings (table : NameTable) : Value :=
  .map [(.text "algorithms", .map (table.map fun (c, groups) =>
    (.text c.name, .map (groups.map fun (isWeak, names) =>
      (.text (groupName isWeak), .list (names.map .text))))))]

/-- The table of the normalised names. -/
def normalized (table : NameTable) : List (Category × List (String × List Value)) :=
  table.map fun (c, groups) => (c, groups.map fun (isWeak, names) =>
    (groupName isWeak, names.map fun name => .text (Registry.normalName name)))

theorem isWeakGroup?_groupName (isWeak : Bool) : isWeakGroup? (groupName isWeak) = some isWeak := by
  cases isWeak <;> decide

end NameTable

/-- The complaint about a name that is not canonical. -/
def nameComplaint (name : String) : FieldError :=
  ⟨[.field "name"], if name = "" then .emptyText else .notCanonical name⟩

namespace Registry

/-- One name: an entry if it is canonical, and else a complaint about the name alone. -/
theorem namedEntry_text (c : Category) (isWeak : Bool) (name : String) :
    namedEntry c isWeak (.text name) =
      if h : IsCanonical name then .ok [⟨c, name, isWeak, h⟩]
      else .error (.invalidEntry [nameComplaint name]) := by
  have hcategory : required Entry.readCategory (some (.text c.name)) = .ok c := by
    simp only [required, Entry.readCategory, Category.ofName?_name]
  have hstrength : required readBool (some (.bool isWeak)) = .ok isWeak := rfl
  rw [namedEntry, Entry.named, Entry.make, hcategory, hstrength]
  simp only [required, Entry.readName, readText]
  by_cases hcanonical : IsCanonical name
  · rw [if_neg hcanonical.1, dif_pos hcanonical, dif_pos hcanonical]
  · rw [dif_neg hcanonical]
    by_cases hempty : name.toList = []
    · obtain rfl : name = "" := String.toList_eq_nil_iff.1 hempty
      rfl
    · have hname : name ≠ "" := fun h => hempty (String.toList_eq_nil_iff.2 h)
      rw [if_neg hempty, dif_neg hcanonical, nameComplaint, if_neg hname]
      rfl

/-- One item whose text is written: an entry if the normalised text is canonical. -/
theorem configEntry_of_display? (c : Category) (isWeak : Bool) {item : Value} {s : String}
    (hitem : item.display? = some s) :
    configEntry c isWeak item =
      if h : IsCanonical (normalName s) then .ok [⟨c, normalName s, isWeak, h⟩]
      else .error (.invalidEntry [nameComplaint (normalName s)]) := by
  simp only [configEntry, hitem, namedEntry_text]

/-- The entry of an item of a table. -/
def itemEntry : Category × Bool × String → Except TaxonomyError (List Entry)
  | (c, isWeak, name) => namedEntry c isWeak (.text (normalName name))

/-- The items of a table are visited category by category and group by group. -/
theorem gather_items (table : NameTable) :
    gather itemEntry table.items = gather (fun row : Category × List (Bool × List String) =>
      gather (fun group : Bool × List String =>
        gather (fun name => itemEntry (row.1, group.1, name)) group.2) row.2) table := by
  simp only [NameTable.items, ← gather_gather, gather_map]

/-- A table of normalised names has the entries of its items. -/
theorem tableEntries_normalized (table : NameTable) :
    tableEntries table.normalized = gather itemEntry table.items := by
  simp only [gather_items, tableEntries, NameTable.normalized, gather_map, groupEntries,
    NameTable.isWeakGroup?_groupName, itemEntry]

/-- A listed group has the entries of its names; one without names has none. -/
theorem configGroup_list (c : Category) {key : Value} {group : String} {isWeak : Bool}
    (hkey : groupKey? key = some (group, isWeak)) (names : List Value) :
    configGroup c (key, .list names) = gather (configEntry c isWeak) names := by
  simp only [configGroup, hkey]
  cases names <;> rfl

/-- A listed category has the entries of its groups; one without groups has none. -/
theorem configCategory_map {key : Value} {c : Category}
    (hkey : Category.ofName? (Text.strip key.display) = some c) (groups : List (Value × Value)) :
    configCategory (key, .map groups) = gather (configGroup c) groups := by
  simp only [configCategory, hkey]
  cases groups <;> rfl

/-- The names of categories have no blanks around them. -/
theorem ofName?_strip_name (c : Category) :
    Category.ofName? (Text.strip (Value.text c.name).display) = some c := by
  cases c <;> decide

/-- A table in settings has the entries of its items. -/
theorem configEntries_toSettings {table : NameTable} (hne : table ≠ []) :
    configEntries table.toSettings = gather itemEntry table.items := by
  have hkey (isWeak : Bool) : groupKey? (.text (NameTable.groupName isWeak)) =
      some (NameTable.groupName isWeak, isWeak) := by
    rw [groupKey?, NameTable.isWeakGroup?_groupName]
    rfl
  have hrows : configEntries table.toSettings = gather configCategory (table.map fun row =>
      (.text row.1.name, .map (row.2.map fun group =>
        (.text (NameTable.groupName group.1), .list (group.2.map .text))))) := by
    cases table with
    | nil => exact absurd rfl hne
    | cons row table => rfl
  rw [hrows, gather_items]
  simp only [gather_map, configCategory_map (ofName?_strip_name _), configGroup_list _ (hkey _)]
  rfl

/-! ### Items of settings -/

/-- An item of settings: it stands in a group of a category. -/
inductive Listed (data : Value) (c : Category) (isWeak : Bool) (item : Value) : Prop
  | intro {fields categories groups : List (Value × Value)} {items : List Value}
      {categoryKey groupKey : Value} {group : String}
      (fields_eq : data = .map fields)
      (categories_eq : field? (.text "algorithms") fields = some (.map categories))
      (category_mem : (categoryKey, .map groups) ∈ categories)
      (category_eq : Category.ofName? (Text.strip categoryKey.display) = some c)
      (group_mem : (groupKey, .list items) ∈ groups)
      (group_eq : groupKey? groupKey = some (group, isWeak))
      (item_mem : item ∈ items)

/-- If settings have entries, every item of theirs is one of them. -/
theorem Listed.exists_mem {data : Value} {c : Category} {isWeak : Bool} {item : Value}
    (h : Listed data c isWeak item) {es : List Entry} (hes : configEntries data = .ok es) :
    ∃ e ∈ es, e.category = c ∧ e.isWeak = isWeak ∧ e.name = normalName item.display := by
  obtain ⟨rfl, hcategories, hcategory, hname, hgroup, hkey, hitem⟩ := h
  rename_i fields categories _ _ _ _ _
  have hall : configEntries (.map fields) = gather configCategory categories := by
    cases categories with
    | nil => exact absurd hcategory List.not_mem_nil
    | cons category categories => simp only [configEntries, hcategories]
  rw [hall] at hes
  obtain ⟨fs, hfs, hsub⟩ := exists_of_gather_eq_ok hes hcategory
  rw [configCategory_map hname] at hfs
  obtain ⟨gs, hgs, hsub'⟩ := exists_of_gather_eq_ok hfs hgroup
  rw [configGroup_list c hkey] at hgs
  obtain ⟨ds, hds, hsub''⟩ := exists_of_gather_eq_ok hgs hitem
  cases htext : item.display? with
  | none =>
    simp only [configEntry, htext] at hds
    cases hds
  | some text =>
    rw [configEntry_of_display? c isWeak htext] at hds
    split at hds
    · cases hds
      obtain ⟨-, rfl⟩ := Value.display?_eq_some_iff.1 htext
      exact ⟨_, hsub _ (hsub' _ (hsub'' _ List.mem_cons_self)), rfl, rfl, rfl⟩
    · cases hds

/-- Settings that were accepted have entries, and these are what the registry holds. -/
theorem exists_configEntries_of_ofConfig {data : Value} {r : Registry}
    (h : (ofConfig data).outcome = .ok r) :
    ∃ es, configEntries data = .ok es ∧ r.Holds es := by
  rw [ofConfig] at h
  cases hes : configEntries data with
  | error e =>
    rw [hes] at h
    cases h
  | ok es =>
    rw [hes] at h
    simp only [build] at h
    cases hr : ofEntries es with
    | error e =>
      rw [hr] at h
      cases h
    | ok r' =>
      rw [hr] at h
      cases h
      exact ⟨es, rfl, holds_of_ofEntries hr⟩

/-! ### The registry of a table -/

/-- A name that is not canonical is refused if those before it are canonical. -/
theorem gather_itemEntry_error {before after : List (Category × Bool × String)} {c : Category}
    {isWeak : Bool} {name : String}
    (hbefore : ∀ item ∈ before, IsCanonical (normalName item.2.2))
    (hname : ¬IsCanonical (normalName name)) :
    gather itemEntry (before ++ (c, isWeak, name) :: after) =
      .error (.invalidEntry [nameComplaint (normalName name)]) := by
  refine gather_append_error (fun item hitem => ?_) ?_
  · obtain ⟨d, strength, other⟩ := item
    rw [itemEntry, namedEntry_text, dif_pos (hbefore _ hitem)]
    exact ⟨_, rfl⟩
  · rw [itemEntry, namedEntry_text, dif_neg hname]

/-- Canonical names become entries one by one. -/
theorem exists_gather_itemEntry_eq_ok {items : List (Category × Bool × String)}
    (h : ∀ item ∈ items, IsCanonical (normalName item.2.2)) :
    ∃ es : List Entry, gather itemEntry items = .ok es ∧
      es.map (fun e => (e.category, e.isWeak, e.name)) =
        items.map fun item => (item.1, item.2.1, normalName item.2.2) := by
  induction items with
  | nil => exact ⟨[], rfl, rfl⟩
  | cons item items ih =>
    obtain ⟨es, hes, hnames⟩ := ih fun other hother => h other (List.mem_cons_of_mem item hother)
    have hcanonical := h item List.mem_cons_self
    have hitem : itemEntry item =
        .ok [⟨item.1, normalName item.2.2, item.2.1, hcanonical⟩] := by
      rw [itemEntry, namedEntry_text, dif_pos hcanonical]
    refine ⟨_, gather_eq_ok_cons hitem hes, ?_⟩
    rw [List.singleton_append, List.map_cons, List.map_cons, hnames]

/-- Settings that list a table and the table of its normalised names have the same outcome: the same
registry with the same notices, or the same error. The first name that is not canonical is refused.
If there is none, the names become entries in their order, and either all of them are registered or
the first one that clashes with one before it is the error. -/
theorem ofConfig_toSettings {table : NameTable} (hne : table ≠ []) :
    ofConfig table.toSettings = ofTable table.normalized ∧
      (∀ before c isWeak name after, table.items = before ++ (c, isWeak, name) :: after →
        (∀ item ∈ before, IsCanonical (normalName item.2.2)) →
        ¬IsCanonical (normalName name) →
        ofTable table.normalized = .fail (.invalidEntry [nameComplaint (normalName name)])) ∧
      ((∀ item ∈ table.items, IsCanonical (normalName item.2.2)) →
        ∃ es : List Entry, es.map (fun e => (e.category, e.isWeak, e.name)) =
            table.items.map (fun item => (item.1, item.2.1, normalName item.2.2)) ∧
          ofTable table.normalized = build es ∧
          ((∃ r, ofEntries es = .ok r ∧ r.Holds es ∧ Distinct es) ∨
            ∃ before e after, es = before ++ e :: after ∧ Distinct before ∧
              (∃ f ∈ before, Clash f e) ∧
              ofEntries es = .error (.duplicate e.name e.category))) := by
  refine ⟨?same, ?refused, ?accepted⟩
  case same =>
    cases hentries : gather itemEntry table.items <;>
      simp only [ofConfig, ofTable, configEntries_toSettings hne, tableEntries_normalized,
        hentries]
  case refused =>
    intro before c isWeak name after hitems hbefore hname
    rw [ofTable, tableEntries_normalized, hitems, gather_itemEntry_error hbefore hname]
  case accepted =>
    intro hcanonical
    obtain ⟨es, hes, hnames⟩ := exists_gather_itemEntry_eq_ok hcanonical
    refine ⟨es, hnames, ?_, ofEntries_cases es⟩
    rw [ofTable, tableEntries_normalized, hes]

/-- A table that lists one name in two spellings, and groups without names. -/
def respelledTable : NameTable :=
  [(.encryption, [(false, [" aes "]), (true, [])]), (.passwordHashing, []),
    (.hashing, [(true, ["md-5"]), (false, ["Md5"])])]

/-- The two spellings become one name, which is refused both ways. -/
theorem ofConfig_toSettings_respelled :
    respelledTable ≠ [] ∧ ofConfig respelledTable.toSettings = ofTable respelledTable.normalized ∧
      (ofConfig respelledTable.toSettings).outcome = .error (.duplicate "MD5" .hashing) := by
  have hne : respelledTable ≠ [] := by decide
  have hsame := (ofConfig_toSettings hne).1
  have hrefused : (ofTable respelledTable.normalized).outcome =
      .error (.duplicate "MD5" .hashing) := by rfl
  exact ⟨hne, hsame, hsame ▸ hrefused⟩

end Registry

end CryptoAudit
