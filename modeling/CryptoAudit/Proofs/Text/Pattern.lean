/-!
# Patterns

A pattern describes texts by classes of characters. There may be several ways to match a start of
a text, and they are tried in a fixed order: a run of characters takes as many as it can and then
gives them back one after the other, and an optional part is tried before it is left out. The
first way that reaches the end of the text is the match of the whole text.

That order matters only if there is more than one way. What a pattern can match at all is said by
a relation that knows no order, and the search finds all of it.

## Main definitions

* `Pattern`: patterns with greedy runs, optional parts and groups
* `Pattern.ways`: the ways to match a start of a text, in the order in which they are tried
* `Pattern.fullMatch?`: the first way that takes the whole text
* `Pattern.Matches`: the texts of a pattern, with what the group keeps

## Main results

* `Pattern.mem_ways_iff`: the search finds exactly the texts of the pattern
* `Pattern.matches_of_fullMatch?`, `Pattern.fullMatch?_eq_none_iff`: the match of a whole text
-/

namespace CryptoAudit.Text

/-- A pattern of characters. Runs and optional parts are greedy. -/
inductive Pattern where
  /-- One character of a class. -/
  | one (p : Char → Bool)
  /-- At least so many characters of a class. -/
  | run (least : Nat) (p : Char → Bool)
  /-- One pattern and then another. -/
  | seq (a b : Pattern)
  /-- A pattern or nothing. -/
  | optional (a : Pattern)
  /-- A pattern whose text is kept. -/
  | group (a : Pattern)

/-- A start of a text that was matched, with what follows it. -/
structure Found where
  text : List Char
  rest : List Char
  /-- The text of the last group that was passed, if one was. -/
  kept : Option (List Char)

/-- The starts of a text that consist of characters of a class, the longest one first, each with
what follows it. -/
def runs (p : Char → Bool) : List Char → List (List Char × List Char)
  | [] => [([], [])]
  | c :: cs =>
    (if p c then (runs p cs).map fun (taken, rest) => (c :: taken, rest) else []) ++
      [([], c :: cs)]

namespace Pattern

/-- The ways to match a start of a text, in the order in which they are tried. -/
def ways : Pattern → List Char → List Found
  | .one _, [] => []
  | .one p, c :: cs => if p c then [⟨[c], cs, none⟩] else []
  | .run least p, cs =>
    ((runs p cs).filter fun (taken, _) => least ≤ taken.length).map fun (taken, rest) =>
      ⟨taken, rest, none⟩
  | .seq a b, cs =>
    (a.ways cs).flatMap fun f =>
      (b.ways f.rest).map fun g => ⟨f.text ++ g.text, g.rest, g.kept.or f.kept⟩
  | .optional a, cs => a.ways cs ++ [⟨[], cs, none⟩]
  | .group a, cs => (a.ways cs).map fun f => { f with kept := some f.text }

/-- The match of a whole text: the first way that leaves nothing. -/
def fullMatch? (a : Pattern) (cs : List Char) : Option Found :=
  (a.ways cs).find? fun f => f.rest.isEmpty

/-- The texts of a pattern, each with what the last group keeps of it. -/
inductive Matches : Pattern → List Char → Option (List Char) → Prop
  | one {p : Char → Bool} {c : Char} (hc : p c = true) : Matches (.one p) [c] none
  | run {least : Nat} {p : Char → Bool} {text : List Char} (hleast : least ≤ text.length)
      (hall : ∀ c ∈ text, p c = true) : Matches (.run least p) text none
  | seq {a b : Pattern} {s t : List Char} {k l : Option (List Char)} (first : Matches a s k)
      (second : Matches b t l) : Matches (.seq a b) (s ++ t) (l.or k)
  | absent {a : Pattern} : Matches (.optional a) [] none
  | present {a : Pattern} {s : List Char} {k : Option (List Char)} (part : Matches a s k) :
      Matches (.optional a) s k
  | group {a : Pattern} {s : List Char} {k : Option (List Char)} (part : Matches a s k) :
      Matches (.group a) s (some s)

end Pattern

theorem mem_runs_iff {p : Char → Bool} {cs taken rest : List Char} :
    (taken, rest) ∈ runs p cs ↔ taken ++ rest = cs ∧ ∀ c ∈ taken, p c = true := by
  induction cs generalizing taken with
  | nil =>
    simp only [runs, List.mem_singleton, Prod.mk.injEq, List.append_eq_nil_iff]
    constructor
    · rintro ⟨rfl, rfl⟩
      simp
    · exact And.left
  | cons c cs ih =>
    cases taken with
    | nil =>
      simp only [runs, List.mem_append, List.mem_singleton, Prod.mk.injEq, true_and,
        List.nil_append, List.not_mem_nil, false_imp_iff, implies_true, and_true]
      constructor
      · rintro (h | h)
        · split at h <;> simp at h
        · exact h
      · exact .inr
    | cons d taken =>
      have hmem : (d :: taken, rest) ∈ runs p (c :: cs) ↔
          p c = true ∧ (taken, rest) ∈ runs p cs ∧ c = d := by
        by_cases hc : p c = true <;> simp [runs, hc]
      rw [hmem, ih, List.cons_append, List.cons.injEq, List.forall_mem_cons]
      constructor
      · rintro ⟨hc, ⟨happend, hall⟩, rfl⟩
        exact ⟨⟨rfl, happend⟩, hc, hall⟩
      · rintro ⟨⟨rfl, happend⟩, hc, hall⟩
        exact ⟨hc, ⟨happend, hall⟩, rfl⟩

namespace Pattern

variable {a : Pattern} {cs : List Char} {f : Found}

/-- The search finds exactly the starts that are texts of the pattern. -/
theorem mem_ways_iff : f ∈ a.ways cs ↔ f.text ++ f.rest = cs ∧ a.Matches f.text f.kept := by
  induction a generalizing cs f with
  | one p =>
    obtain ⟨text, rest, kept⟩ := f
    constructor
    · intro h
      cases cs with
      | nil => cases h
      | cons c cs =>
        rw [ways] at h
        split at h
        · cases List.mem_singleton.1 h
          exact ⟨rfl, .one ‹_›⟩
        · cases h
    · rintro ⟨rfl, hmatch⟩
      cases hmatch with
      | one hc => simp [ways, hc]
  | run least p =>
    obtain ⟨text, rest, kept⟩ := f
    simp only [ways, List.mem_map, List.mem_filter, decide_eq_true_eq, Prod.exists, mem_runs_iff,
      Found.mk.injEq]
    constructor
    · rintro ⟨taken, left, ⟨⟨rfl, hall⟩, hleast⟩, rfl, rfl, rfl⟩
      exact ⟨rfl, .run hleast hall⟩
    · rintro ⟨rfl, hmatch⟩
      cases hmatch with
      | run hleast hall => exact ⟨text, rest, ⟨⟨rfl, hall⟩, hleast⟩, rfl, rfl, rfl⟩
  | seq a b iha ihb =>
    simp only [ways, List.mem_flatMap, List.mem_map]
    constructor
    · rintro ⟨f, hf, g, hg, rfl⟩
      obtain ⟨rfl, hfirst⟩ := iha.1 hf
      obtain ⟨hrest, hsecond⟩ := ihb.1 hg
      exact ⟨by rw [List.append_assoc, hrest], .seq hfirst hsecond⟩
    · obtain ⟨text, rest, kept⟩ := f
      rintro ⟨rfl, hmatch⟩
      cases hmatch with
      | @seq _ _ s t k l first second =>
        exact ⟨⟨s, t ++ rest, k⟩, iha.2 ⟨(List.append_assoc s t rest).symm, first⟩, ⟨t, rest, l⟩,
          ihb.2 ⟨rfl, second⟩, rfl⟩
  | optional a ih =>
    rw [ways, List.mem_append, List.mem_singleton, ih]
    constructor
    · rintro (⟨happend, hpart⟩ | rfl)
      · exact ⟨happend, .present hpart⟩
      · exact ⟨rfl, .absent⟩
    · obtain ⟨text, rest, kept⟩ := f
      rintro ⟨rfl, hmatch⟩
      cases hmatch with
      | absent => exact .inr rfl
      | present part => exact .inl ⟨rfl, part⟩
  | group a ih =>
    simp only [ways, List.mem_map]
    constructor
    · rintro ⟨f, hf, rfl⟩
      obtain ⟨happend, hpart⟩ := ih.1 hf
      exact ⟨happend, .group hpart⟩
    · obtain ⟨text, rest, kept⟩ := f
      dsimp only
      rintro ⟨rfl, hmatch⟩
      cases hmatch with
      | @group _ _ k part => exact ⟨⟨text, rest, k⟩, ih.2 ⟨rfl, part⟩, rfl⟩

/-- The match of a whole text is one of the ways in which the text belongs to the pattern. -/
theorem matches_of_fullMatch? (h : a.fullMatch? cs = some f) : a.Matches cs f.kept := by
  obtain ⟨happend, hmatch⟩ := mem_ways_iff.1 (List.mem_of_find?_eq_some h)
  have hrest : f.rest.isEmpty = true := by simpa using List.find?_some h
  rw [List.isEmpty_iff.1 hrest, List.append_nil] at happend
  rwa [happend] at hmatch

/-- Backtracking does not miss a match: there is none only if the text does not belong to the
pattern. -/
theorem fullMatch?_eq_none_iff : a.fullMatch? cs = none ↔ ∀ kept, ¬a.Matches cs kept := by
  constructor
  · intro h kept hmatch
    have hway : ⟨cs, [], kept⟩ ∈ a.ways cs := mem_ways_iff.2 ⟨List.append_nil cs, hmatch⟩
    exact List.find?_eq_none.1 h _ hway rfl
  · intro h
    cases hfull : a.fullMatch? cs with
    | none => rfl
    | some f => exact absurd (matches_of_fullMatch? hfull) (h f.kept)

end Pattern

end CryptoAudit.Text
