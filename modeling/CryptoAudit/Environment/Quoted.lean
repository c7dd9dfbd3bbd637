/-!
# Quoted values in environment files

Between quotes a backslash escapes the quote and some letters. The closing quote is the first one
without a backslash before it, or else the last.

## Main definitions

* `quotedPart`: the text up to the closing quote, and the text after it
* `unescape`: a text with its escapes replaced
-/

namespace CryptoAudit.Environment

/-- The text before the first quote that has no backslash before it, and the text after it.
Whether the text comes after a backslash is given. -/
def splitAtQuote (q : Char) : Bool → List Char → Option (List Char × List Char)
  | _, [] => none
  | escaped, c :: cs =>
    if c = q && !escaped then some ([], cs)
    else (splitAtQuote q (c = '\\') cs).map fun (text, rest) => (c :: text, rest)

/-- The text before the last quote, and the text after it. -/
def splitAtLastQuote (q : Char) : List Char → Option (List Char × List Char)
  | [] => none
  | c :: cs =>
    match splitAtLastQuote q cs with
    | some (text, rest) => some (c :: text, rest)
    | none => if c = q then some ([], cs) else none

/-- The text up to the closing quote, and the text after it. -/
def quotedPart (q : Char) (cs : List Char) : Option (List Char × List Char) :=
  (splitAtQuote q false cs).or (splitAtLastQuote q cs)

/-- The escapes between single quotes: the letter after the backslash, and what it stands for. -/
def singleEscapes : List (Char × Char) :=
  [('\\', '\\'), ('\'', '\'')]

/-- The escapes between double quotes. -/
def doubleEscapes : List (Char × Char) :=
  singleEscapes ++ [('"', '"'), ('a', '\x07'), ('b', '\x08'), ('f', '\x0c'), ('n', '\n'),
    ('r', '\r'), ('t', '\t'), ('v', '\x0b')]

/-- The text with escapes replaced by what they stand for. -/
def unescape (escapes : List (Char × Char)) : List Char → List Char
  | [] => []
  | '\\' :: c :: cs =>
    match escapes.lookup c with
    | some d => d :: unescape escapes cs
    | none => '\\' :: unescape escapes (c :: cs)
  | c :: cs => c :: unescape escapes cs

theorem length_splitAtQuote {q : Char} {escaped : Bool} {cs text rest : List Char}
    (h : splitAtQuote q escaped cs = some (text, rest)) : rest.length < cs.length := by
  induction cs generalizing escaped text rest with
  | nil => simp [splitAtQuote] at h
  | cons c cs ih =>
    unfold splitAtQuote at h
    split at h
    · simp_all
    · obtain ⟨⟨text', rest'⟩, hr, hrest⟩ := Option.map_eq_some_iff.1 h
      have := ih hr
      simp only [Prod.mk.injEq] at hrest
      simp only [List.length_cons, ← hrest.2]
      omega

theorem length_splitAtLastQuote {q : Char} {cs text rest : List Char}
    (h : splitAtLastQuote q cs = some (text, rest)) : rest.length < cs.length := by
  fun_induction splitAtLastQuote q cs generalizing text rest <;> grind

theorem length_quotedPart {q : Char} {cs text rest : List Char}
    (h : quotedPart q cs = some (text, rest)) : rest.length < cs.length := by
  rcases Option.or_eq_some_iff.1 h with h | ⟨_, h⟩
  · exact length_splitAtQuote h
  · exact length_splitAtLastQuote h

end CryptoAudit.Environment
