import CryptoAudit.Text.CaseContext
import CryptoAudit.Text.CaseRun

/-!
# Upper and lower case

Full case mappings: one character may become several (`ß` becomes `SS`), and a capital sigma
that ends a word becomes a final sigma.

## Main definitions

* `upperChar`, `upperChars`: upper-casing
* `lower`: lower-casing
* `equalsIgnoringAsciiCase`: equality up to the case of ASCII letters

## Main results

* `upperChars_append`: upper-casing works character by character
* `upperChars_eq_self`: a text whose characters are in upper case
-/

namespace CryptoAudit.Text

/-- The upper-case form of a character. -/
def upperChar (c : Char) : List Char :=
  let n := c.toNat
  if n < 128 then [if 97 ≤ n && n ≤ 122 then Char.ofNat (n - 32) else c]
  else match upperExpansions.lookup n with
    | some ns => ns.map Char.ofNat
    | none => [((shiftBy? upperRuns n).map Char.ofNat).getD c]

/-- The characters in upper case. -/
def upperChars (cs : List Char) : List Char :=
  cs.flatMap upperChar

/-- The lower-case form of a character outside its context. -/
def lowerChar (c : Char) : List Char :=
  if c = 'İ' then ['i', '\u0307'] else [((shiftBy? lowerRuns c.toNat).map Char.ofNat).getD c]

/-- Whether a character that is not case-ignorable is cased. -/
def isCased (c : Char) : Bool :=
  upperChar c != [c] || lowerChar c != [c] || hasFixedCase c

/-- Whether the first character that is not case-ignorable is cased. -/
def startsCased (cs : List Char) : Bool :=
  (cs.dropWhile isCaseIgnorable).head?.any isCased

/-- The characters in lower case, where `before` has those before them, the nearest first. A
capital sigma that follows a cased character and precedes none is a final sigma. -/
def lowerFrom (before : List Char) : List Char → List Char
  | [] => []
  | 'Σ' :: cs =>
    (if startsCased before && !startsCased cs then 'ς' else 'σ') :: lowerFrom ('Σ' :: before) cs
  | c :: cs => lowerChar c ++ lowerFrom (c :: before) cs

/-- The text in lower case. -/
def lower (s : String) : String :=
  String.ofList (lowerFrom [] s.toList)

/-- A character with an ASCII capital made small. -/
def lowerAscii (c : Char) : Char :=
  if 'A' ≤ c && c ≤ 'Z' then Char.ofNat (c.toNat + 32) else c

/-- Whether two texts agree up to the case of ASCII letters. -/
def equalsIgnoringAsciiCase (s t : String) : Bool :=
  s.toList.map lowerAscii == t.toList.map lowerAscii

/-- Upper-casing works character by character. -/
theorem upperChars_append (cs ds : List Char) :
    upperChars (cs ++ ds) = upperChars cs ++ upperChars ds :=
  List.flatMap_append

@[simp] theorem upperChars_cons (c : Char) (cs : List Char) :
    upperChars (c :: cs) = upperChar c ++ upperChars cs := rfl

/-- A text whose characters are all in upper case is in upper case. -/
theorem upperChars_eq_self {cs : List Char} (h : ∀ c ∈ cs, upperChar c = [c]) :
    upperChars cs = cs := by
  induction cs with
  | nil => rfl
  | cons c cs ih =>
    rw [upperChars_cons, h c List.mem_cons_self, ih fun d hd => h d (List.mem_cons_of_mem c hd),
      List.singleton_append]

end CryptoAudit.Text
