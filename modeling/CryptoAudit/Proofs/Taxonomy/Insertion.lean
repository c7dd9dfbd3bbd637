import CryptoAudit.Taxonomy.Builtin
import CryptoAudit.Taxonomy.Error

/-!
# What a registry holds

Entries are inserted one by one. After every step each category lists exactly the entries of that
category so far, in the order of their insertion, and an entry is refused exactly if its category
and name already occurred. A whole list is therefore accepted exactly if no two of its entries
share category and name, and an accepted list is rearranged by category and not otherwise
changed.

## Main definitions

* `Registry.Holds`: a registry lists given entries, category by category
* `Clash`, `Distinct`: entries that share category and name, and lists without such entries
* `StableByCategory`: a list rearranged by category, in its order within each
* `Registry.visited`: the entries that a loop over a registry visits

## Main results

* `Registry.Holds.insert_cases`: one insertion
* `Registry.Holds.foldlM_cases`: a run of insertions
* `Registry.ofEntries_representation`: which lists are accepted, and what they become
-/

namespace CryptoAudit

/-- A weak hash algorithm. -/
def md5 : Entry := ⟨.hashing, "MD5", true, by decide +kernel⟩

/-- A strong encryption algorithm. -/
def aes : Entry := ⟨.encryption, "AES", false, by decide +kernel⟩

/-- Two entries clash if they share category and name. -/
def Clash (e f : Entry) : Prop :=
  e.category = f.category ∧ e.name = f.name

/-- No two entries of the list clash. -/
def Distinct (es : List Entry) : Prop :=
  es.Pairwise fun e f => ¬Clash e f

/-- A list that has the entries of another one by category, and within each category in their
order. -/
structure StableByCategory (es out : List Entry) : Prop where
  perm : out.Perm es
  sorted : out.Pairwise fun e f => e.category.rank ≤ f.category.rank
  stable : ∀ c : Category, out.filter (·.category = c) = es.filter (·.category = c)

theorem distinct_append_singleton {es : List Entry} {e : Entry} :
    Distinct (es ++ [e]) ↔ Distinct es ∧ ∀ f ∈ es, ¬Clash f e := by
  simp [Distinct, List.pairwise_append]

/-- Every entry stands among those of its own category, so nothing is lost and nothing is
doubled. -/
theorem perm_flatMap_category (es : List Entry) :
    (Category.all.flatMap fun c => es.filter (·.category = c)).Perm es := by
  simp only [Category.all, List.flatMap_cons, List.flatMap_nil, List.append_nil]
  induction es with
  | nil => exact .refl _
  | cons e es ih =>
    cases he : e.category with
    | hashing => simpa [List.filter_cons, he] using ih
    | encryption =>
      simp only [List.filter_cons, he, reduceCtorEq, decide_false, decide_true, if_true,
        Bool.false_eq_true, if_false, List.cons_append]
      exact List.perm_middle.trans (ih.cons e)
    | passwordHashing =>
      simp only [List.filter_cons, he, reduceCtorEq, decide_false, decide_true, if_true,
        Bool.false_eq_true, if_false]
      rw [← List.append_assoc] at ih ⊢
      exact List.perm_middle.trans (ih.cons e)

namespace Registry

/-- The entries that a loop over a registry visits, in its order. -/
def visited (r : Registry) : List Entry := Id.run do
  let mut seen := []
  for e in r do
    seen := seen ++ [e]
  return seen

/-- A loop visits the entries of the registry one by one. -/
theorem visited_eq_entries (r : Registry) : r.visited = r.entries := by
  have collect (es seen : List Entry) :
      es.foldl (fun seen e => seen ++ [e]) seen = seen ++ es := by
    induction es generalizing seen with
    | nil => simp
    | cons e es ih => simp [ih]
  have loop : r.visited = r.entries.foldl (fun seen e => seen ++ [e]) [] := by
    exact List.idRun_forIn_yield_eq_foldl r.entries (fun e seen => pure (seen ++ [e])) []
  rw [loop, collect, List.nil_append]

/-- The registry lists these entries, category by category. -/
def Holds (r : Registry) (es : List Entry) : Prop :=
  ∀ c, r.entriesFor c = es.filter (·.category = c)

theorem holds_empty : empty.Holds [] := fun c => entriesFor_empty c

namespace Holds

variable {r : Registry} {es : List Entry} {e : Entry}

theorem mem_entries_iff (h : r.Holds es) : e ∈ r.entries ↔ e ∈ es := by
  rw [mem_entries, h]
  simp

/-- Nothing is found under a category and a name exactly if no entry so far has both. -/
theorem lookup_eq_none_iff (h : r.Holds es) :
    r.lookup e.category e.name = none ↔ ∀ f ∈ es, ¬Clash f e := by
  rw [Registry.lookup_eq_none_iff]
  simp only [h.mem_entries_iff, Clash, not_and]

theorem add (h : r.Holds es) (fresh : r.lookup e.category e.name = none) :
    (r.add e fresh).Holds (es ++ [e]) := by
  intro c
  rw [entriesFor_add, h, List.filter_append]

/-- One insertion: a new entry is held after the others, and an entry that clashes with one of
them is refused under its own name and category. -/
theorem insert_cases (h : r.Holds es) (e : Entry) :
    (∃ r', r.insert e = .ok r' ∧ r'.Holds (es ++ [e]) ∧ ∀ f ∈ es, ¬Clash f e) ∨
      (∃ f ∈ es, Clash f e) ∧ r.insert e = .error (.duplicate e.name e.category) := by
  cases hl : r.lookup e.category e.name with
  | none => exact .inl ⟨r.add e hl, insert_ok hl, h.add hl, h.lookup_eq_none_iff.1 hl⟩
  | some f =>
    obtain ⟨hf, hc, hn⟩ := lookup_eq_some_iff.1 hl
    exact .inr ⟨⟨f, h.mem_entries_iff.1 hf, hc, hn⟩, insert_error hl⟩

/-- A run of insertions: either all entries are held in the end, or the run stops at the first
entry that clashes with one before it. -/
theorem foldlM_cases (h : r.Holds es) (distinct : Distinct es) (more : List Entry) :
    (∃ r', more.foldlM insert r = .ok r' ∧ r'.Holds (es ++ more) ∧ Distinct (es ++ more)) ∨
      ∃ before e after, more = before ++ e :: after ∧ Distinct (es ++ before) ∧
        (∃ f ∈ es ++ before, Clash f e) ∧
        more.foldlM insert r = .error (.duplicate e.name e.category) := by
  induction more generalizing r es with
  | nil => exact .inl ⟨r, rfl, by simpa using h, by simpa using distinct⟩
  | cons e more ih =>
    rw [List.foldlM_cons]
    rcases h.insert_cases e with ⟨r', hr', hholds, hnew⟩ | ⟨hclash, herror⟩
    · rw [hr']
      change (∃ r'', more.foldlM insert r' = .ok r'' ∧ _) ∨ _
      rcases ih hholds (distinct_append_singleton.2 ⟨distinct, hnew⟩) with
        ⟨r'', hrun, hholds', hdistinct⟩ | ⟨before, x, after, rfl, hdistinct, hclash, hrun⟩
      · exact .inl ⟨r'', hrun, by simpa using hholds', by simpa using hdistinct⟩
      · exact .inr ⟨e :: before, x, after, rfl, by simpa using hdistinct, by simpa using hclash,
          hrun⟩
    · exact .inr ⟨[], e, more, rfl, by simpa using distinct, by simpa using hclash,
        by rw [herror]; rfl⟩

/-- The entries of a registry are those it holds, rearranged by category. -/
theorem stableByCategory (h : r.Holds es) : StableByCategory es r.entries where
  perm := by
    have : r.entries = Category.all.flatMap fun c => es.filter (·.category = c) := by
      simp only [entries, List.flatMap_def]
      rw [List.map_congr_left fun c _ => h c]
    exact this ▸ perm_flatMap_category es
  sorted := by
    refine List.pairwise_flatMap.2 ⟨fun c _ => ?_, ?_⟩
    · refine List.pairwise_of_forall_mem_list ?_
      intro e he f hf
      exact (category_of_mem_entriesFor he ▸ category_of_mem_entriesFor hf ▸ Nat.le_refl _)
    · have order : Category.all.Pairwise fun c d => c.rank ≤ d.rank := by decide
      refine order.imp ?_
      intro c d hcd e he f hf
      rwa [category_of_mem_entriesFor he, category_of_mem_entriesFor hf]
  stable c := by rw [filter_entries, h]

end Holds

theorem ofEntries_cases (es : List Entry) :
    (∃ r, ofEntries es = .ok r ∧ r.Holds es ∧ Distinct es) ∨
      ∃ before e after, es = before ++ e :: after ∧ Distinct before ∧
        (∃ f ∈ before, Clash f e) ∧ ofEntries es = .error (.duplicate e.name e.category) := by
  simpa [ofEntries] using holds_empty.foldlM_cases .nil es

/-- A list of entries becomes a registry exactly if no two of them clash. -/
theorem exists_ofEntries_iff {es : List Entry} : (∃ r, ofEntries es = .ok r) ↔ Distinct es := by
  rcases ofEntries_cases es with
    ⟨r, hr, -, hes⟩ | ⟨before, e, after, rfl, -, ⟨f, hf, hclash⟩, herror⟩
  · exact iff_of_true ⟨r, hr⟩ hes
  · refine iff_of_false ?_ fun hes => ?_
    · rintro ⟨r, hr⟩
      cases herror.symm.trans hr
    · exact (List.pairwise_append.1 hes).2.2 f hf e List.mem_cons_self hclash

/-- A registry that was built holds the entries it was built from. -/
theorem holds_of_ofEntries {es : List Entry} {r : Registry} (h : ofEntries es = .ok r) :
    r.Holds es := by
  rcases ofEntries_cases es with ⟨r', hr', hholds, -⟩ | ⟨before, e, after, -, -, -, herror⟩
  · rw [h] at hr'
    cases hr'
    exact hholds
  · rw [h] at herror
    cases herror

/-- A list of entries becomes a registry exactly if no two of them clash, and otherwise the first
entry that clashes with an earlier one is named. The registry has all the entries by category, in
their order within each; its size, its loop and its categories agree with that, and looking up
finds exactly the entries that were given. -/
theorem ofEntries_representation (es : List Entry) :
    ((∃ r, ofEntries es = .ok r) ↔ Distinct es) ∧
      (∀ error, ofEntries es = .error error →
        ∃ before e after, es = before ++ e :: after ∧ Distinct before ∧
          (∃ f ∈ before, Clash f e) ∧ error = .duplicate e.name e.category ∧
          error.message =
            "Duplicate canonical name '" ++ e.name ++ "' in category " ++ e.category.name) ∧
      (∀ r, ofEntries es = .ok r →
        StableByCategory es r.entries ∧ r.entries = Category.all.flatMap r.entriesFor ∧
          (∀ c, r.entriesFor c = es.filter (·.category = c)) ∧
          r.size = es.length ∧ r.visited = r.entries ∧
          ∀ c name e, r.lookup c name = some e ↔ e ∈ es ∧ e.category = c ∧ e.name = name) := by
  refine ⟨⟨?accepted, ?distinct⟩, ?refused, ?held⟩
  case accepted =>
    rintro ⟨r, hr⟩
    rcases ofEntries_cases es with ⟨-, -, -, hdistinct⟩ | ⟨-, e, -, -, -, -, herror⟩
    · exact hdistinct
    · rw [hr] at herror
      cases herror
  case distinct =>
    intro hdistinct
    rcases ofEntries_cases es with ⟨r, hr, -, -⟩ | ⟨before, e, after, rfl, -, ⟨f, hf, hclash⟩, -⟩
    · exact ⟨r, hr⟩
    · have := (List.pairwise_append.1 hdistinct).2.2 f hf e List.mem_cons_self
      exact absurd hclash this
  case refused =>
    intro error herror
    rcases ofEntries_cases es with ⟨r, hr, -, -⟩ | ⟨before, e, after, hes, hbefore, hclash, hfirst⟩
    · rw [hr] at herror
      cases herror
    · rw [hfirst] at herror
      cases herror
      exact ⟨before, e, after, hes, hbefore, hclash, rfl,
        TaxonomyError.message_duplicate e e.category⟩
  case held =>
    intro r hr
    have hholds := holds_of_ofEntries hr
    refine ⟨hholds.stableByCategory, rfl, hholds, hholds.stableByCategory.perm.length_eq,
      r.visited_eq_entries, fun c name e => ?_⟩
    rw [lookup_eq_some_iff, hholds.mem_entries_iff]

/-- The built-in entries are all there, and giving one of them twice is refused. -/
theorem ofEntries_representation_builtin :
    StableByCategory builtinEntries builtin.entries ∧
      ∃ before e after, [md5, aes, md5] = before ++ e :: after ∧ Distinct before ∧
        ∃ f ∈ before, Clash f e := by
  refine ⟨((ofEntries_representation builtinEntries).2.2 builtin ofEntries_builtin).1, ?_⟩
  have refused : ofEntries [md5, aes, md5] = .error (.duplicate "MD5" .hashing) := rfl
  obtain ⟨before, e, after, hes, hbefore, hclash, -⟩ :=
    (ofEntries_representation [md5, aes, md5]).2.1 _ refused
  exact ⟨before, e, after, hes, hbefore, hclash⟩

end Registry

end CryptoAudit
