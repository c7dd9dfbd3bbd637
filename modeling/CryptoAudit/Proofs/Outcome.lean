import CryptoAudit.Taxonomy.Table
import Mathlib.Data.List.Forall2

/-!
# Outcomes of several steps

Steps in a row succeed if each of them does, and else end with the failure of the first one that
fails. Nested lists of steps are one list of steps.

## Main results

* `bind_eq_ok_iff`: two steps
* `exists_mapM_eq_ok`, `mapM_eq_ok_map`: a result for each item
* `gather_gather`: nested lists of items
* `gather_append_error`: the first item that fails
* `exists_of_gather_eq_ok`: what is gathered
-/

namespace CryptoAudit

variable {ι α β γ ε : Type}

/-! ### Two steps -/

/-- Two steps succeed together if each of them does. -/
theorem bind_eq_ok_iff {x : Except ε α} {f : α → Except ε β} {b : β} :
    x >>= f = .ok b ↔ ∃ a, x = .ok a ∧ f a = .ok b := by
  cases x with
  | error e => simp [bind, Except.bind]
  | ok a => simp [bind, Except.bind]

theorem throw_ne_ok {e : ε} {a : α} : (throw e : Except ε α) ≠ .ok a :=
  fun h => by cases h

theorem eq_ok_of_toOption {x : Except ε α} {a : α} (h : x.toOption = some a) : x = .ok a := by
  cases x with
  | error e => cases h
  | ok b => exact congrArg Except.ok (Option.some.inj h)

theorem mapError_eq_ok_iff {δ : Type} {f : ε → δ} {x : Except ε α} {a : α} :
    x.mapError f = .ok a ↔ x = .ok a := by
  cases x <;> simp [Except.mapError]

theorem mapError_eq_error_iff {δ : Type} {f : ε → δ} {x : Except ε α} {d : δ} :
    x.mapError f = .error d ↔ ∃ e, x = .error e ∧ f e = d := by
  cases x <;> simp [Except.mapError]

/-! ### One result for each item -/

/-- A step that gives related results for related items gives them for whole lists. -/
theorem exists_mapM_eq_ok {P : ι → α → Prop} {R : ι → β → Prop} {f : α → Except ε β}
    (step : ∀ i x, P i x → ∃ y, f x = .ok y ∧ R i y) {is : List ι} {xs : List α}
    (h : List.Forall₂ P is xs) : ∃ ys, xs.mapM f = .ok ys ∧ List.Forall₂ R is ys := by
  induction h with
  | nil => exact ⟨[], rfl, .nil⟩
  | cons hx _ ih =>
    obtain ⟨y, hy, hry⟩ := step _ _ hx
    obtain ⟨ys, hys, hrys⟩ := ih
    refine ⟨y :: ys, ?_, .cons hry hrys⟩
    rw [List.mapM_cons, hy, hys]
    rfl

/-- Steps that give the results of a function give them for the whole list. -/
theorem mapM_eq_ok_map {f : α → Except ε β} {g : α → β} {xs : List α}
    (h : ∀ x ∈ xs, f x = .ok (g x)) : xs.mapM f = .ok (xs.map g) := by
  induction xs with
  | nil => rfl
  | cons x xs ih =>
    rw [List.mapM_cons, h x List.mem_cons_self, ih fun y hy => h y (List.mem_cons_of_mem x hy)]
    rfl

/-! ### Some results for each item -/

section Gather

variable {f : α → Except ε (List β)}

theorem gather_cons (f : α → Except ε (List β)) (x : α) (xs : List α) :
    gather f (x :: xs) = do return (← f x) ++ (← gather f xs) := by
  rw [gather]
  cases f x with
  | error e => rfl
  | ok ys => cases gather f xs <;> rfl

theorem gather_map (f : α → Except ε (List β)) (g : γ → α) (xs : List γ) :
    gather f (xs.map g) = gather (fun x => f (g x)) xs := by
  induction xs with
  | nil => rfl
  | cons x xs ih => rw [List.map_cons, gather_cons, gather_cons, ih]

/-- One list of items after another. -/
theorem gather_append (f : α → Except ε (List β)) (xs ys : List α) :
    gather f (xs ++ ys) = do return (← gather f xs) ++ (← gather f ys) := by
  induction xs with
  | nil =>
    rw [List.nil_append, gather_nil]
    cases gather f ys <;> rfl
  | cons x xs ih => simp [gather_cons, ih, ← List.append_assoc]

/-- Gathering from the items below each item is gathering from all of them in a row. -/
theorem gather_gather (f : α → Except ε (List β)) (g : γ → List α) (xs : List γ) :
    gather (fun x => gather f (g x)) xs = gather f (xs.flatMap g) := by
  induction xs with
  | nil => rfl
  | cons x xs ih => rw [gather_cons, List.flatMap_cons, gather_append, ih]

/-- The first item that fails decides, whatever comes after it. -/
theorem gather_append_error {before after : List α} {x : α} {e : ε}
    (hbefore : ∀ y ∈ before, ∃ ys, f y = .ok ys) (hx : f x = .error e) :
    gather f (before ++ x :: after) = .error e := by
  induction before with
  | nil => exact gather_error_cons hx
  | cons y before ih =>
    obtain ⟨ys, hys⟩ := hbefore y List.mem_cons_self
    rw [List.cons_append, gather, hys, ih fun z hz => hbefore z (List.mem_cons_of_mem y hz)]

/-- What is gathered has the results of every item. -/
theorem exists_of_gather_eq_ok {xs : List α} {zs : List β} (h : gather f xs = .ok zs) {x : α}
    (hx : x ∈ xs) : ∃ ys, f x = .ok ys ∧ ∀ y ∈ ys, y ∈ zs := by
  induction xs generalizing zs with
  | nil => exact absurd hx List.not_mem_nil
  | cons y xs ih =>
    rw [gather_cons] at h
    obtain ⟨us, hus, h⟩ := bind_eq_ok_iff.1 h
    obtain ⟨ws, hws, h⟩ := bind_eq_ok_iff.1 h
    cases h
    rcases List.mem_cons.1 hx with rfl | hx
    · exact ⟨us, hus, fun u hu => List.mem_append_left ws hu⟩
    · obtain ⟨ys, hys, hmem⟩ := ih hws hx
      exact ⟨ys, hys, fun u hu => List.mem_append_right us (hmem u hu)⟩

end Gather

end CryptoAudit
