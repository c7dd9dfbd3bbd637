/-!
# File contents

A file holds text, or bytes that are no text. When a text is read line by line, every line ends
with a line feed, however it was written.

## Main definitions

* `Content`: what a file holds
* `Content.ofBytes`: the content made of bytes
* `Content.lines?`: the text with its line ends made alike
-/

namespace CryptoAudit

/-- What a file holds. -/
inductive Content where
  | text (s : String)
  | binary (bytes : List UInt8)
deriving DecidableEq, Repr, Inhabited

namespace Content

/-- The content made of bytes: a text if they encode one. -/
def ofBytes (bytes : List UInt8) : Content :=
  match String.fromUTF8? ⟨bytes.toArray⟩ with
  | some s => text s
  | none => binary bytes

/-- The number of bytes. -/
def size : Content → Nat
  | text s => s.utf8ByteSize
  | binary bytes => bytes.length

/-- The content with a text after it. -/
def append (c : Content) (t : String) : Content :=
  match c with
  | text s => text (s ++ t)
  | binary bytes => ofBytes (bytes ++ t.toUTF8.toList)

/-- The characters with every line end made a line feed. -/
def normalLines : List Char → List Char
  | [] => []
  | '\r' :: '\n' :: cs => '\n' :: normalLines cs
  | '\r' :: cs => '\n' :: normalLines cs
  | c :: cs => c :: normalLines cs

/-- The text with its line ends made alike, if the content is a text. -/
def lines? : Content → Option String
  | text s => some (String.ofList (normalLines s.toList))
  | binary _ => none

end Content

end CryptoAudit
