import CryptoAudit.Yaml.Timestamp

/-!
# Types of YAML nodes

The type of a node is given by its tag. A plain scalar without a tag has the first type, in a
fixed order, whose spellings include its text, and is a text otherwise.

## Main definitions

* `Tag`: the types that have values
* `Tag.ofName`: the type that a full tag names
* `Tag.ofPlain`: the type of a plain scalar
-/

namespace CryptoAudit.Yaml

/-- The types of nodes. A merge key and a value key are plain scalars with a role of their
own. -/
inductive Tag where
  | null
  | bool
  | int
  | float
  | binary
  | timestamp
  | text
  | sequence
  | mapping
  | orderedMap
  | pairs
  | set
  | mergeKey
  | valueKey
  | unknown
deriving DecidableEq, Repr

/-- What the full names of the standard types begin with. -/
def standardTags : String := "tag:yaml.org,2002:"

namespace Tag

/-- The standard types with the ends of their names. -/
def named : List (String × Tag) :=
  [("null", null), ("bool", bool), ("int", int), ("float", float), ("binary", binary),
    ("timestamp", timestamp), ("str", text), ("seq", sequence), ("map", mapping),
    ("omap", orderedMap), ("pairs", pairs), ("set", set), ("merge", mergeKey),
    ("value", valueKey)]

/-- The type that a full tag names. -/
def ofName (name : String) : Tag :=
  ((named.find? fun (tail, _) => standardTags ++ tail = name).map (·.2)).getD unknown

/-! ### Spellings of plain scalars -/

/-- The truth values with their spellings in lower case. -/
def truthWords : List (String × Bool) :=
  [("yes", true), ("no", false), ("true", true), ("false", false), ("on", true), ("off", false)]

/-- A word in small letters, with a capital, or in capitals. -/
def spellings (word : String) : List String :=
  [word, word.capitalize, word.toUpper]

/-- Whether a text is spelled like a truth value. -/
def isTruthWord (s : String) : Bool :=
  truthWords.any fun (word, _) => (spellings word).contains s

/-- Whether a character is a digit or an underscore. -/
def isDigitOrBar (c : Char) : Bool :=
  isDigit c || c == '_'

/-- Whether the characters start with a digit and go on with digits and underscores. -/
def isGroupedNumeral (cs : List Char) : Bool :=
  cs.head?.any isDigit && cs.all isDigitOrBar

/-- Whether the characters are one or more groups of at most two digits below sixty, each after
a colon. -/
def areSixtieths : List Char → Bool
  | [':', x] => isDigit x
  | [':', x, y] => '0' ≤ x && x ≤ '5' && isDigit y
  | ':' :: x :: ':' :: cs => isDigit x && areSixtieths (':' :: cs)
  | ':' :: x :: y :: cs => '0' ≤ x && x ≤ '5' && isDigit y && areSixtieths cs
  | _ => false

/-- The characters before the first of some kind, and the rest. -/
def splitAt (p : Char → Bool) (cs : List Char) : List Char × List Char :=
  (cs.takeWhile fun c => !p c, cs.dropWhile fun c => !p c)

/-- Whether the characters are spelled like an integer: binary, octal, decimal, hexadecimal, or
in sixtieths. -/
def isIntSpelling (cs : List Char) : Bool :=
  let body := (splitSign cs).2
  match body with
  | '0' :: 'b' :: digits =>
    !digits.isEmpty && digits.all fun c => c == '0' || c == '1' || c == '_'
  | '0' :: 'x' :: digits =>
    !digits.isEmpty && digits.all fun c =>
      isDigitOrBar c || ('a' ≤ c && c ≤ 'f') || ('A' ≤ c && c ≤ 'F')
  | '0' :: digits => digits.all fun c => ('0' ≤ c && c ≤ '7') || c == '_'
  | _ =>
    let (whole, rest) := splitAt (· == ':') body
    isGroupedNumeral whole && (rest.isEmpty || areSixtieths rest)

/-- Whether the characters are an exponent with a sign. -/
def isSignedExponent : List Char → Bool
  | e :: sign :: digits =>
    (e == 'e' || e == 'E') && (sign == '-' || sign == '+') && !digits.isEmpty &&
      digits.all isDigit
  | _ => false

/-- Whether the characters are a fraction after the point, with or without an exponent. -/
def isFraction (cs : List Char) : Bool :=
  let rest := cs.dropWhile isDigitOrBar
  rest.isEmpty || isSignedExponent rest

/-- Whether the characters are spelled like a floating-point number. Only a number with digits
before the point, and an infinity, may have a sign. -/
def isFloatSpelling (cs : List Char) : Bool :=
  let body := (splitSign cs).2
  let (whole, rest) := splitAt (· == '.') body
  match rest with
  | [] => false
  | _ :: rest =>
    if whole.isEmpty then
      ["inf", "Inf", "INF"].contains (String.ofList rest) ||
        (body == cs && (["nan", "NaN", "NAN"].contains (String.ofList rest) ||
          (rest.head?.any isDigit && isFraction rest)))
    else
      let (first, groups) := splitAt (· == ':') whole
      isGroupedNumeral first &&
        (if groups.isEmpty then isFraction rest
        else areSixtieths groups && rest.all isDigitOrBar)

/-- Whether a text is spelled like the absence of a value. -/
def isNullSpelling (s : String) : Bool :=
  ["", "~", "null", "Null", "NULL"].contains s

/-- The type of a plain scalar. -/
def ofPlain (s : String) : Tag :=
  let cs := s.toList
  if isTruthWord s then bool
  else if isFloatSpelling cs then float
  else if isIntSpelling cs then int
  else if s = "<<" then mergeKey
  else if isNullSpelling s then null
  else if Timestamp.isSpelling cs then timestamp
  else if s = "=" then valueKey
  else text

end Tag

end CryptoAudit.Yaml
