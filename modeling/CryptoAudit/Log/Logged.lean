import CryptoAudit.Log.Record

/-!
# Computations that log

A logged computation has an outcome and the records it wrote on the way, whether or not it
succeeded.

## Main definitions

* `Logged`: an outcome with its records
* `Logged.write`, `Logged.fail`: write a record, fail

## Main results

* `Logged.outcome_bind_eq_ok_iff`, `Logged.outcome_bind_eq_error_iff`: two computations in a row
  that succeed or fail
-/

namespace CryptoAudit.Log

/-- An outcome with the records written before it. -/
structure Logged (ε α : Type) where
  records : List Record
  outcome : Except ε α

namespace Logged

variable {ε ε' α β : Type}

/-- One computation after another; a failure ends both and keeps the records so far. -/
def andThen (x : Logged ε α) (f : α → Logged ε β) : Logged ε β :=
  match x.outcome with
  | .ok a => ⟨x.records ++ (f a).records, (f a).outcome⟩
  | .error e => ⟨x.records, .error e⟩

instance : Monad (Logged ε) where
  pure a := ⟨[], .ok a⟩
  bind := andThen

/-- Write a record. -/
def write (level : Level) (logger message : String) : Logged ε Unit :=
  ⟨[⟨level, logger, message⟩], .ok ()⟩

/-- Write several records. -/
def writeAll (records : List Record) : Logged ε Unit :=
  ⟨records, .ok ()⟩

/-- Fail without a record. -/
def fail (e : ε) : Logged ε α :=
  ⟨[], .error e⟩

/-- An outcome without records. -/
def ofExcept (x : Except ε α) : Logged ε α :=
  ⟨[], x⟩

/-- The same computation with its failure renamed. -/
def mapError (f : ε → ε') (x : Logged ε α) : Logged ε' α :=
  ⟨x.records, x.outcome.mapError f⟩

theorem outcome_bind_ok {x : Logged ε α} {f : α → Logged ε β} {a : α}
    (h : x.outcome = .ok a) : (x >>= f).outcome = (f a).outcome := by
  simp [bind, andThen, h]

theorem outcome_bind_error {x : Logged ε α} {f : α → Logged ε β} {e : ε}
    (h : x.outcome = .error e) : (x >>= f).outcome = .error e := by
  simp [bind, andThen, h]

/-- A computation that succeeds has succeeded in each of its two parts. -/
theorem outcome_bind_eq_ok_iff {x : Logged ε α} {f : α → Logged ε β} {b : β} :
    (x >>= f).outcome = .ok b ↔ ∃ a, x.outcome = .ok a ∧ (f a).outcome = .ok b := by
  cases h : x.outcome with
  | error e => simp [outcome_bind_error h]
  | ok a => simp [outcome_bind_ok h]

/-- A computation that fails has failed in its first part, or else in its second. -/
theorem outcome_bind_eq_error_iff {x : Logged ε α} {f : α → Logged ε β} {e : ε} :
    (x >>= f).outcome = .error e ↔
      x.outcome = .error e ∨ ∃ a, x.outcome = .ok a ∧ (f a).outcome = .error e := by
  cases h : x.outcome with
  | error e' => simp [outcome_bind_error h]
  | ok a => simp [outcome_bind_ok h]

@[simp] theorem outcome_pure (a : α) : (pure a : Logged ε α).outcome = .ok a := rfl

end Logged

end CryptoAudit.Log
