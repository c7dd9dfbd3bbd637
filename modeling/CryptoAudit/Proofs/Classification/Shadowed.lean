import CryptoAudit.Proofs.Classification.Canonical
import Mathlib.Data.List.Dedup
import Mathlib.Data.List.Forall2

/-!
# Shadowed entries

An entry is shadowed by one of the same name in an earlier category. Its name then denotes the other
entry, and no raw name denotes it. A new registry is searched for such entries by a pass of its own,
which keeps what it has seen so far in a list and warns of a name that it meets again. This pass and
the search of the categories agree, because the entries stand in the order of the categories: the
first entry of a name is the one that is found.

## Main definitions

* `Log.Logged.warnings`: the warnings among what is logged
* `Registry.IsShadowed`: an earlier category holds the name of an entry
* `Registry.Reports`: a collision tells of an entry and of the category that is found instead

## Main results

* `Registry.find?_eq_find?_entries`: the first entry of a name is found
* `Registry.classify_name_eq_some_iff`: a name denotes its entry exactly if that is not shadowed
* `Registry.forall₂_collisionsAfter`: one collision for each shadowed entry
* `Registry.length_collisions`, `Registry.collisions_eq_nil_iff`: the number of collisions
* `Registry.build_warnings`: what the warnings of a new registry say
-/

namespace CryptoAudit

/-- The warnings among the records of a computation. -/
def Log.Logged.warnings {ε α : Type} (x : Logged ε α) : List Record :=
  x.records.filter (·.level = .warning)

namespace Registry

/-- An earlier category holds the name of the entry. -/
def IsShadowed (r : Registry) (e : Entry) : Prop :=
  ∃ f ∈ r.entries, f.name = e.name ∧ f.category.rank < e.category.rank

instance (r : Registry) (e : Entry) : Decidable (r.IsShadowed e) :=
  inferInstanceAs (Decidable (∃ f ∈ r.entries, f.name = e.name ∧ f.category.rank < e.category.rank))

/-- The collision names the entry, and before it the category of the entry that the name denotes. -/
def Reports (r : Registry) (e : Entry) (c : Collision) : Prop :=
  ∃ f, r.classify e.name = some f ∧ c = ⟨e.name, f.category, e.category⟩

variable {r : Registry} {e : Entry}

/-! ### The first entry of a name -/

/-- No two entries of a registry clash, so none of them is there twice. -/
theorem nodup_entries (r : Registry) : r.entries.Nodup := by
  apply List.nodup_flatMap.2
  constructor
  · intro c _
    apply List.Nodup.of_map Entry.name
    have hkeys : (r.entriesFor c).map Entry.name = (r.buckets.get c).map Prod.fst := by
      rw [entriesFor, List.map_map]
      apply List.map_congr_left
      intro field hfield
      exact (r.keyed c _ _ hfield).2
    rw [hkeys]
    exact r.distinct c
  · refine Category.nodup_all.imp ?_
    intro c d hne e hc hd
    exact hne ((category_of_mem_entriesFor hc).symm.trans (category_of_mem_entriesFor hd))

theorem lookup_eq_find? (c : Category) (name : String) :
    r.lookup c name = (r.entriesFor c).find? (·.name = name) := by
  cases hfound : (r.entriesFor c).find? (·.name = name) with
  | none =>
    rw [lookup_eq_none_iff]
    rintro e he rfl
    simpa using List.find?_eq_none.1 hfound e (mem_entries.1 he)
  | some e =>
    have hmem := List.mem_of_find?_eq_some hfound
    have hc := category_of_mem_entriesFor hmem
    rw [lookup_eq_some_iff, mem_entries, hc]
    exact ⟨hmem, rfl, by simpa using List.find?_some hfound⟩

/-- The entries stand in the order of search, so the first one of a name is found. -/
theorem find?_eq_find?_entries (name : String) :
    r.find? name = r.entries.find? (·.name = name) := by
  rw [find?, entries, List.find?_flatMap]
  congr 1
  funext c
  exact lookup_eq_find? c name

/-- The name of an entry denotes this entry unless it is shadowed. -/
theorem classify_name_eq_some_iff (he : e ∈ r.entries) :
    r.classify e.name = some e ↔ ¬r.IsShadowed e := by
  rw [classify_name he, find?_eq_some_iff]
  constructor
  · rintro ⟨⟨-, hfirst⟩, -⟩ ⟨f, hf, hname, hlt⟩
    rcases hfirst f hf hname with rfl | hgt
    · exact Nat.lt_irrefl _ hlt
    · exact Nat.lt_asymm hlt hgt
  · intro hfirst
    refine ⟨⟨he, ?_⟩, rfl⟩
    intro f hf hname
    rcases Nat.lt_trichotomy f.category.rank e.category.rank with hlt | heq | hgt
    · exact absurd ⟨f, hf, hname, hlt⟩ hfirst
    · exact .inl (eq_of_clash hf he ⟨Category.rank_injective heq, hname⟩)
    · exact .inr hgt

/-! ### Collisions -/

/-- A pass over the entries that has seen some of them reports each of the others that is shadowed,
and no more. -/
theorem forall₂_collisionsAfter {before after : List Entry} (h : r.entries = before ++ after) :
    List.Forall₂ r.Reports (after.filter (r.IsShadowed ·)) (collisionsAfter before after) := by
  induction after generalizing before with
  | nil => exact .nil
  | cons e after ih =>
    have hsplit : r.entries = before ++ [e] ++ after := by
      rw [h, List.append_assoc]
      rfl
    have hrest := ih hsplit
    have he : e ∈ r.entries := by
      rw [h]
      exact List.mem_append_right before List.mem_cons_self
    have hdenoted : r.classify e.name = (before.find? (·.name = e.name)).or (some e) := by
      rw [classify_name he, find?_eq_find?_entries, h, List.find?_append,
        List.find?_cons_of_pos (by simp)]
    cases hseen : before.find? (·.name = e.name) with
    | none =>
      rw [hseen, Option.none_or, classify_name_eq_some_iff he] at hdenoted
      rw [List.filter_cons_of_neg (by simpa using hdenoted)]
      simpa only [collisionsAfter, hseen] using hrest
    | some f =>
      -- A name that is met again is found at another entry, since no entry is there twice.
      rw [hseen, Option.some_or] at hdenoted
      have hne : f ≠ e := by
        rintro rfl
        have hnodup := r.nodup_entries
        rw [h, List.nodup_append] at hnodup
        exact hnodup.2.2 f (List.mem_of_find?_eq_some hseen) f List.mem_cons_self rfl
      have hshadowed : r.IsShadowed e := by
        by_contra hnot
        rw [← classify_name_eq_some_iff he, hdenoted] at hnot
        exact hne (Option.some.inj hnot)
      rw [List.filter_cons_of_pos (by simpa using hshadowed)]
      simp only [collisionsAfter, hseen]
      exact .cons ⟨f, hdenoted, rfl⟩ hrest

/-- The collisions of a registry are those of its shadowed entries. -/
theorem forall₂_collisions (r : Registry) :
    List.Forall₂ r.Reports (r.entries.filter (r.IsShadowed ·)) r.collisions :=
  forall₂_collisionsAfter (List.nil_append _).symm

/-- Each name has one entry that is not shadowed, namely the one that it denotes. -/
theorem perm_names (r : Registry) :
    ((r.entries.filter (¬r.IsShadowed ·)).map Entry.name).Perm
      (r.entries.map Entry.name).dedup := by
  apply (List.perm_ext_iff_of_nodup ?_ (List.nodup_dedup _)).2
  · intro name
    simp only [List.mem_dedup, List.mem_map, List.mem_filter, decide_eq_true_eq]
    constructor
    · rintro ⟨e, ⟨he, -⟩, rfl⟩
      exact ⟨e, he, rfl⟩
    · rintro ⟨e, he, rfl⟩
      obtain ⟨f, hfound, ⟨hf, -⟩, hname⟩ := exists_find?_of_has (has_name he)
      rw [← hname, ← classify_name hf, classify_name_eq_some_iff hf] at hfound
      exact ⟨f, ⟨hf, hfound⟩, hname⟩
  · refine List.Nodup.map_on ?_ (r.nodup_entries.filter _)
    intro e he f hf hname
    simp only [List.mem_filter, decide_eq_true_eq] at he hf
    have hdenoted := (classify_name_eq_some_iff he.1).2 he.2
    rw [hname, (classify_name_eq_some_iff hf.1).2 hf.2] at hdenoted
    exact (Option.some.inj hdenoted).symm

/-- There are as many collisions as there are more entries than names. -/
theorem length_collisions (r : Registry) :
    r.collisions.length + (r.entries.map Entry.name).dedup.length = r.entries.length := by
  calc
    _ = (r.entries.filter (r.IsShadowed ·)).length +
        (r.entries.filter (¬r.IsShadowed ·)).length := by
      rw [← r.forall₂_collisions.length_eq, ← r.perm_names.length_eq, List.length_map]
    _ = r.entries.length := by
      conv_rhs => rw [List.length_eq_length_filter_add (r.IsShadowed ·)]
      simp only [decide_not]

/-- There are no collisions exactly if the name of every entry denotes this entry. -/
theorem collisions_eq_nil_iff :
    r.collisions = [] ↔ ∀ e ∈ r.entries, r.classify e.name = some e := by
  have hlength := r.forall₂_collisions.length_eq
  rw [← List.length_eq_zero_iff, ← hlength, List.length_eq_zero_iff, List.filter_eq_nil_iff]
  apply forall₂_congr
  intro e he
  rw [classify_name_eq_some_iff he, decide_eq_true_eq]

/-! ### Warnings -/

section Warnings

variable {es : List Entry}

theorem build_eq_ok_iff : (build es).outcome = .ok r ↔ ofEntries es = .ok r := by
  rw [build]
  cases ofEntries es <;> simp

/-- Of what is logged about a new registry only the collisions are warnings. -/
theorem warnings_build (built : ofEntries es = .ok r) :
    (build es).warnings = r.collisions.map fun c => ⟨.warning, loggerName, c.message⟩ := by
  have hrecords : (build es).records = r.notices := by rw [build, built]
  have hcollisions : ((r.collisions.map fun c => (⟨.warning, loggerName, c.message⟩ :
      Log.Record)).filter (·.level = .warning)) =
        r.collisions.map fun c => ⟨.warning, loggerName, c.message⟩ := by
    apply List.filter_eq_self.2
    intro record hrecord
    obtain ⟨c, -, rfl⟩ := List.mem_map.1 hrecord
    rfl
  rw [Log.Logged.warnings, hrecords, notices, List.filter_append, hcollisions]
  exact List.append_nil _

/-- When a registry is built, there is one warning for each entry whose name an earlier category
holds. It says that the name is found in the category of the entry that the name denotes. So there
are as many warnings as there are more entries than names, and there is none exactly if the name of
every entry denotes this entry. -/
theorem build_warnings (built : (build es).outcome = .ok r) :
    (∃ shadowed : List Entry, shadowed.Perm
        (es.filter fun e => ∃ f ∈ es, f.name = e.name ∧ f.category.rank < e.category.rank) ∧
      List.Forall₂ (fun e warning => ∃ f, r.classify e.name = some f ∧
          warning = ⟨.warning, loggerName, "Canonical name " ++ e.name ++
            " is registered under both " ++ f.category.name ++ " and " ++ e.category.name ++ "; " ++
            f.category.name ++ " wins on lookup."⟩)
        shadowed (build es).warnings) ∧
      (build es).warnings.length + (es.map Entry.name).dedup.length = es.length ∧
      ((build es).warnings = [] ↔ ∀ e ∈ es, r.classify e.name = some e) := by
  rw [build_eq_ok_iff] at built
  have hholds := holds_of_ofEntries built
  have hperm := hholds.stableByCategory.perm
  rw [warnings_build built]
  refine ⟨⟨r.entries.filter (r.IsShadowed ·), ?shadowed, ?said⟩, ?number, ?none⟩
  case shadowed =>
    have hsame (e : Entry) : r.IsShadowed e ↔
        ∃ f ∈ es, f.name = e.name ∧ f.category.rank < e.category.rank := by
      simp only [IsShadowed, hholds.mem_entries_iff]
    simp only [hsame]
    exact hperm.filter _
  case said =>
    rw [List.forall₂_map_right_iff]
    refine r.forall₂_collisions.imp ?_
    rintro e _ ⟨f, hf, rfl⟩
    exact ⟨f, hf, rfl⟩
  case number =>
    rw [List.length_map, ← hperm.length_eq, ← r.length_collisions]
    have hnames := (hperm.map Entry.name).dedup
    rw [hnames.length_eq]
  case none =>
    rw [List.map_eq_nil_iff, collisions_eq_nil_iff]
    simp only [hholds.mem_entries_iff]

/-- A strong cipher with the name of the hash algorithm. -/
def md5Cipher : Entry := ⟨.encryption, "MD5", false, md5.canonical⟩

/-- A password hash with the name of the hash algorithm. -/
def md5Password : Entry := ⟨.passwordHashing, "MD5", true, md5.canonical⟩

/-- A name of three categories is warned of twice, in whatever order its entries are given. -/
theorem build_warnings_three :
    ∃ r, (build [md5Password, aes, md5Cipher, md5]).outcome = .ok r ∧
      (build [md5Password, aes, md5Cipher, md5]).warnings.length = 2 ∧
      ¬∀ e ∈ [md5Password, aes, md5Cipher, md5], r.classify e.name = some e := by
  have hdistinct : Distinct [md5Password, aes, md5Cipher, md5] := by
    simp [Distinct, Clash, md5Password, aes, md5Cipher, md5]
  obtain ⟨r, hr⟩ := exists_ofEntries_iff.2 hdistinct
  have built : (build [md5Password, aes, md5Cipher, md5]).outcome = .ok r := build_eq_ok_iff.2 hr
  obtain ⟨-, hnumber, hnone⟩ := build_warnings built
  have hnames : ([md5Password, aes, md5Cipher, md5].map Entry.name).dedup = ["AES", "MD5"] := by
    decide
  rw [hnames] at hnumber
  have htwo : (build [md5Password, aes, md5Cipher, md5]).warnings.length = 2 := by
    simpa using hnumber
  refine ⟨r, built, htwo, ?_⟩
  rw [← hnone, ← List.length_eq_zero_iff, htwo]
  decide

end Warnings

end Registry

end CryptoAudit
