/-!
# Mode suffixes

A name such as `AES-256-CBC` is a word followed by a dash and a qualifier. A word is a run of
ASCII letters, digits and underscores; the qualifier is any text on the same line.

## Main definitions

* `isWordChar`: the characters of words
* `dropModeSuffix`: the word of a qualified name, and any other text unchanged

## Main results

* `dropModeSuffix_prefix`: the result is a prefix of the text
-/

namespace CryptoAudit.Name

/-- Whether a character may stand in a word. -/
def isWordChar (c : Char) : Bool :=
  ('A' ≤ c && c ≤ 'Z') || ('a' ≤ c && c ≤ 'z') || ('0' ≤ c && c ≤ '9') || c == '_'

/-- The word of a name that is a word, or a word with a dash and a qualifier; any other text is
left alone. -/
def dropModeSuffix (cs : List Char) : List Char :=
  let word := cs.takeWhile isWordChar
  match cs.dropWhile isWordChar with
  | '-' :: qualifier => if word.isEmpty || qualifier.contains '\n' then cs else word
  | _ => cs

/-- Dropping a mode suffix cuts the text. -/
theorem dropModeSuffix_prefix (cs : List Char) : dropModeSuffix cs <+: cs := by
  simp only [dropModeSuffix]
  split
  · split
    · exact List.prefix_refl cs
    · exact List.takeWhile_prefix isWordChar
  · exact List.prefix_refl cs

end CryptoAudit.Name
