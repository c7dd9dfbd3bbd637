import CryptoAudit.Environment.Basic
import CryptoAudit.Environment.Statement

/-!
# References in environment files

A value may refer to variables: to those bound earlier in the file, or else to those of the
environment. A reference is a name between braces after a dollar sign; it may give a text to fall
back on, after a colon and a dash. What is not bound at all and has no text to fall back on stands
for the empty text, and so does a key that is bound without a value.

## Main definitions

* `Reference`: a name with the text to fall back on
* `expand`: a value with its references replaced
* `bindings`: what statements bind
-/

namespace CryptoAudit.Environment

/-- A reference to a variable. -/
structure Reference where
  name : String
  /-- What stands for the variable if it is not bound. -/
  fallback : String
deriving DecidableEq, Repr, Inhabited

/-- Whether a character may stand in the name of a reference. -/
def isNameChar (c : Char) : Bool :=
  c != '\x7d' && c != ':'

/-- The reference whose opening brace comes before a text, and the rest. -/
def reference? (cs : List Char) : Option (Reference × List Char) :=
  let name := String.ofList (cs.takeWhile isNameChar)
  match cs.dropWhile isNameChar with
  | '\x7d' :: rest => some (⟨name, ""⟩, rest)
  | ':' :: '-' :: more =>
    match more.dropWhile (· != '\x7d') with
    | _ :: rest => some (⟨name, String.ofList (more.takeWhile (· != '\x7d'))⟩, rest)
    | [] => none
  | _ => none

theorem length_reference? {cs rest : List Char} {r : Reference}
    (h : reference? cs = some (r, rest)) : rest.length < cs.length := by
  have h₁ := length_dropWhile_le isNameChar cs
  simp only [reference?] at h
  split at h
  · rename_i hrest
    rw [hrest] at h₁
    simp only [Option.some.injEq, Prod.mk.injEq, List.length_cons] at h h₁
    rw [← h.2]
    omega
  · rename_i more hmore
    have h₂ := length_dropWhile_le (· != '\x7d') more
    rw [hmore] at h₁
    split at h
    · rename_i hrest
      rw [hrest] at h₂
      simp only [Option.some.injEq, Prod.mk.injEq, List.length_cons] at h h₁ h₂
      rw [← h.2]
      omega
    · simp at h
  · simp at h

/-- A value with each reference replaced by what it stands for. -/
def expand (meaning : Reference → String) (cs : List Char) : List Char :=
  match cs with
  | [] => []
  | '$' :: '\x7b' :: cs =>
    match h : reference? cs with
    | some (r, rest) =>
      have := length_reference? h
      (meaning r).toList ++ expand meaning rest
    | none => '$' :: expand meaning ('\x7b' :: cs)
  | c :: cs => c :: expand meaning cs
termination_by cs.length

/-- What keys are bound to; a key may be bound without a value. -/
abbrev Bindings := List (String × Option String)

/-- What a reference stands for. -/
def meaning (env : Environment) (bound : Bindings) (r : Reference) : String :=
  match field? r.name bound with
  | some v => v.getD ""
  | none => (field? r.name env).getD r.fallback

/-- The bindings after a statement. -/
def afterStatement (env : Environment) (bound : Bindings) : Statement → Bindings
  | .binding key v =>
    setField key (v.map fun v => String.ofList (expand (meaning env bound) v.toList)) bound
  | _ => bound

/-- What statements bind. -/
def bindings (env : Environment) (ss : List Statement) : Bindings :=
  ss.foldl (afterStatement env) []

example : bindings [("B", "b")] (statements "A=a\nC=$\x7bA\x7d$\x7bB\x7d$\x7bX:-x\x7d$\x7bX\x7d") =
    [("A", some "a"), ("C", some "abx")] := by decide +kernel

end CryptoAudit.Environment
