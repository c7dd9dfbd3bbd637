import CryptoAudit.Proofs.Classification.Priority
import CryptoAudit.Proofs.Taxonomy.Grammar

/-!
# Reordered and respelled tables

What becomes of a table in settings depends on which names stand in it, each with its category and
strength, once the names are normalised. In which order the categories, the groups and the names
stand, how the names are spelled and what else the settings hold does not matter. The order of the
entries is another one then, and so is the first error, but not whether there is one, and not what
is looked up.

## Main definitions

* `NameTable.GivenIn`: settings that list a table
* `NameTable.meanings`: the normalised names of a table, with their categories and strengths

## Main results

* `NameTable.GivenIn.accepted_iff`: which tables are accepted
* `NameTable.GivenIn.mem_entries_iff`: which entries a table becomes
* `Registry.classify_reordered`: tables with the same meanings
-/

namespace CryptoAudit

namespace NameTable

/-- The categories of the table as a mapping in settings. -/
def categories (table : NameTable) : List (Value × Value) :=
  table.map fun (c, groups) => (.text c.name, .map (groups.map fun (isWeak, names) =>
    (.text (groupName isWeak), .list (names.map .text))))

/-- The settings list the table as their algorithms, whatever else they hold. -/
def GivenIn (table : NameTable) (data : Value) : Prop :=
  ∃ fields, data = .map fields ∧
    field? (.text "algorithms") fields = some (.map table.categories)

/-- What the names of the table stand for: their categories, their strengths and their normalised
spellings. -/
def meanings (table : NameTable) : List (Category × Bool × String) :=
  table.items.map fun (c, isWeak, name) => (c, isWeak, Registry.normalName name)

end NameTable

namespace Registry

/-- Nothing in settings but the algorithms is looked at. -/
theorem configEntries_congr {fields fields' : List (Value × Value)}
    (h : field? (Value.text "algorithms") fields = field? (Value.text "algorithms") fields') :
    configEntries (.map fields) = configEntries (.map fields') := by
  simp only [configEntries, h]

/-- The items of a table become entries if their names are names, and the entries say what the
items mean. -/
theorem follows_items (items : List (Category × Bool × String)) :
    Follows (∀ item ∈ items, IsNameItem (.text item.2.2))
      (items.flatMap fun item => [(item.1, item.2.1, .text item.2.2)]) (gather itemEntry items) :=
  follows_gather (fun item => follows_configEntry item.1 item.2.1 (.text item.2.2)) items

theorem entryMeaning_injective : Function.Injective entryMeaning := by
  rintro ⟨c, name, isWeak, h⟩ ⟨c', name', isWeak', h'⟩ heq
  simp only [entryMeaning, Prod.mk.injEq] at heq
  obtain ⟨rfl, rfl, rfl⟩ := heq
  rfl

section SameEntries

variable {r r' : Registry} (h : ∀ e, e ∈ r.entries ↔ e ∈ r'.entries)

include h

theorem lookup_eq_of_same_entries (c : Category) (name : String) :
    r.lookup c name = r'.lookup c name := by
  refine Option.ext fun e => ?_
  rw [lookup_eq_some_iff, lookup_eq_some_iff, h]

theorem find?_eq_of_same_entries (name : String) : r.find? name = r'.find? name := by
  simp only [find?, lookup_eq_of_same_entries h]

/-- Raw names denote the same in registries with the same entries. -/
theorem classify_eq_of_same_entries (raw : String) : r.classify raw = r'.classify raw := by
  rw [classify_eq_or, classify_eq_or, find?_eq_of_same_entries h, find?_eq_of_same_entries h]

end SameEntries

end Registry

namespace NameTable

variable {table : NameTable} {data : Value}

theorem GivenIn.configEntries_eq (h : table.GivenIn data) (hne : table ≠ []) :
    Registry.configEntries data = gather Registry.itemEntry table.items := by
  obtain ⟨fields, rfl, hfield⟩ := h
  rw [← Registry.configEntries_toSettings hne]
  exact Registry.configEntries_congr hfield

/-- A table becomes entries if all its names are names, and these say what the names stand for. -/
theorem GivenIn.configEntries_cases (h : table.GivenIn data) (hne : table ≠ []) :
    (∃ es, Registry.configEntries data = .ok es ∧ es.map Registry.entryMeaning = table.meanings) ∧
        (∀ meaning ∈ table.meanings, IsCanonical meaning.2.2) ∨
      (∃ e, Registry.configEntries data = .error e) ∧
        ¬∀ meaning ∈ table.meanings, IsCanonical meaning.2.2 := by
  have hshape : (∀ item ∈ table.items, IsNameItem (.text item.2.2)) ↔
      ∀ meaning ∈ table.meanings, IsCanonical meaning.2.2 := by
    simp only [meanings, List.forall_mem_map, IsNameItem, Value.display?_text, Option.some.injEq,
      exists_eq_left']
  have hfollows := (Registry.follows_items table.items).congr hshape
  rw [h.configEntries_eq hne]
  cases hes : gather Registry.itemEntry table.items with
  | error e =>
    rw [hes] at hfollows
    exact .inr ⟨⟨e, rfl⟩, hfollows.1⟩
  | ok es =>
    rw [hes] at hfollows
    refine .inl ⟨⟨es, rfl, hfollows.2.trans ?_⟩, hfollows.1⟩
    rw [← List.map_eq_flatMap, List.map_map]
    rfl

/-- A table is accepted if all its names are names and none of them stands in a category twice. -/
theorem GivenIn.accepted_iff (h : table.GivenIn data) (hne : table ≠ []) :
    (∃ r, (Registry.ofConfig data).outcome = .ok r) ↔
      (∀ meaning ∈ table.meanings, IsCanonical meaning.2.2) ∧
        (table.meanings.map fun meaning => (meaning.1, meaning.2.2)).Nodup := by
  rw [Registry.outcome_ofConfig]
  rcases h.configEntries_cases hne with ⟨⟨es, hes, hmeanings⟩, hnames⟩ | ⟨⟨e, he⟩, hnames⟩
  · rw [hes, ← hmeanings, ← Registry.distinct_iff_nodup_meanings, ← Registry.exists_ofEntries_iff,
      hmeanings]
    exact (and_iff_right hnames).symm
  · rw [he]
    refine iff_of_false ?_ fun hshape => hnames hshape.1
    rintro ⟨r, hr⟩
    cases hr

/-- The entries of a table are those that say what its names stand for. -/
theorem GivenIn.mem_entries_iff (h : table.GivenIn data) (hne : table ≠ []) {r : Registry}
    (hr : (Registry.ofConfig data).outcome = .ok r) {e : Entry} :
    e ∈ r.entries ↔ Registry.entryMeaning e ∈ table.meanings := by
  obtain ⟨es, hes, hholds⟩ := Registry.exists_configEntries_of_ofConfig hr
  rcases h.configEntries_cases hne with ⟨⟨es', hes', hmeanings⟩, -⟩ | ⟨⟨e, he⟩, -⟩
  · cases hes.symm.trans hes'
    rw [hholds.mem_entries_iff, ← hmeanings,
      List.mem_map_of_injective Registry.entryMeaning_injective]
  · cases hes.symm.trans he

end NameTable

namespace Registry

/-- Settings that list tables of the same names, in whatever order and spelling and with whatever
else beside them, are both accepted or both refused. If they are accepted, the registries find the
same under every category and name, and every raw name denotes the same in both. -/
theorem classify_reordered {table table' : NameTable} {data data' : Value} (hne : table ≠ [])
    (hne' : table' ≠ []) (hdata : table.GivenIn data) (hdata' : table'.GivenIn data')
    (hsame : table.meanings.Perm table'.meanings) :
    ((∃ r, (ofConfig data).outcome = .ok r) ↔ ∃ r', (ofConfig data').outcome = .ok r') ∧
      ∀ r r', (ofConfig data).outcome = .ok r → (ofConfig data').outcome = .ok r' →
        (∀ c name, r.lookup c name = r'.lookup c name) ∧
          ∀ raw, r.classify raw = r'.classify raw := by
  constructor
  · rw [hdata.accepted_iff hne, hdata'.accepted_iff hne', (hsame.map _).nodup_iff]
    simp only [hsame.mem_iff]
  · intro r r' hr hr'
    have hentries (e : Entry) : e ∈ r.entries ↔ e ∈ r'.entries := by
      rw [hdata.mem_entries_iff hne hr, hdata'.mem_entries_iff hne' hr', hsame.mem_iff]
    exact ⟨lookup_eq_of_same_entries hentries, classify_eq_of_same_entries hentries⟩

/-- A table of three hash algorithms and a cipher. -/
def fourNames : NameTable :=
  [(.hashing, [(true, ["MD5", "SHA1"]), (false, ["SHA256"])]), (.encryption, [(true, ["RC4"])])]

/-- The same names in other spellings, with everything in another order. -/
def fourNamesReordered : NameTable :=
  [(.encryption, [(true, [" rc-4\n"])]),
    (.hashing, [(false, ["sha_256"]), (true, ["sha 1", "Md5"])])]

/-- Settings that list them, beside a version. -/
def versionedSettings : Value :=
  .map [(.text "version", .int 2), (.text "algorithms", .map fourNamesReordered.categories)]

/-- Another order, other spellings and another field make no difference. -/
theorem classify_reordered_four :
    fourNames.meanings.Perm fourNamesReordered.meanings ∧
      ∃ r r', (ofConfig fourNames.toSettings).outcome = .ok r ∧
        (ofConfig versionedSettings).outcome = .ok r' ∧
          ∀ raw, r.classify raw = r'.classify raw := by
  have hsame : fourNames.meanings.Perm fourNamesReordered.meanings := by decide +kernel
  have hdata : fourNames.GivenIn fourNames.toSettings := ⟨_, rfl, rfl⟩
  have hdata' : fourNamesReordered.GivenIn versionedSettings := ⟨_, rfl, rfl⟩
  obtain ⟨haccepted, hregistries⟩ :=
    classify_reordered (by decide) (by decide) hdata hdata' hsame
  have hrun : (ofConfig fourNames.toSettings).outcome.toOption.isSome = true := by decide +kernel
  obtain ⟨r, hr⟩ := Option.isSome_iff_exists.1 hrun
  obtain ⟨r', hr'⟩ := haccepted.1 ⟨r, eq_ok_of_toOption hr⟩
  exact ⟨hsame, r, r', eq_ok_of_toOption hr, hr',
    (hregistries r r' (eq_ok_of_toOption hr) hr').2⟩

end Registry

end CryptoAudit
