import CryptoAudit.Name.ModeSuffix
import CryptoAudit.Text.Case

/-!
# Forms of a name

A raw name is compared with canonical names in one or two forms. The full form is the name in
upper case without separators. The short form drops a mode suffix before the separators, and
counts only if it differs.

## Main definitions

* `isSeparator`, `stripSeparators`: dashes, underscores and spaces
* `fullForm`, `shortForm`: the two forms
* `full`, `short`: the same as texts
* `forms`: the forms to try, in order

## Main results

* `stripSeparators_append`: separators are dropped one by one
* `fullForm_noSeparator`: the full form holds no separator
* `shortForm_prefix`: the short form is a start of the full form
* `fullForm_eq_nil_of_separators`: a name of separators has an empty full form
-/

namespace CryptoAudit.Name

/-- Whether a character separates the pieces of a name. -/
def isSeparator (c : Char) : Bool :=
  c == '-' || c == '_' || c == ' '

/-- The characters without separators. -/
def stripSeparators (cs : List Char) : List Char :=
  cs.filter fun c => !isSeparator c

/-- The name in upper case without separators. -/
def fullForm (raw : List Char) : List Char :=
  stripSeparators (Text.upperChars raw)

/-- The name in upper case without its mode suffix and separators. -/
def shortForm (raw : List Char) : List Char :=
  stripSeparators (dropModeSuffix (Text.upperChars raw))

/-- The full form as a text. -/
def full (raw : String) : String :=
  String.ofList (fullForm raw.toList)

/-- The short form as a text. -/
def short (raw : String) : String :=
  String.ofList (shortForm raw.toList)

/-- The forms of a name, the full form first. -/
def forms (raw : String) : List String :=
  if short raw = full raw then [full raw] else [full raw, short raw]

@[simp] theorem stripSeparators_append (cs ds : List Char) :
    stripSeparators (cs ++ ds) = stripSeparators cs ++ stripSeparators ds :=
  List.filter_append cs ds

theorem stripSeparators_noSeparator (cs : List Char) :
    ∀ c ∈ stripSeparators cs, isSeparator c = false := by
  intro c h
  simpa using (List.mem_filter.1 h).2

theorem fullForm_noSeparator (raw : List Char) : ∀ c ∈ fullForm raw, isSeparator c = false :=
  stripSeparators_noSeparator _

/-- The short form is a start of the full form. -/
theorem shortForm_prefix (raw : List Char) : shortForm raw <+: fullForm raw := by
  have := dropModeSuffix_prefix (Text.upperChars raw)
  exact this.filter _

/-- Upper-casing keeps the separators. -/
theorem upperChar_separator {c : Char} (h : isSeparator c = true) : Text.upperChar c = [c] := by
  simp only [isSeparator, Bool.or_eq_true, beq_iff_eq] at h
  rcases h with (rfl | rfl) | rfl <;> decide

/-- Nothing is left of a name that consists of separators. -/
theorem fullForm_eq_nil_of_separators {raw : List Char}
    (h : ∀ c ∈ raw, isSeparator c = true) : fullForm raw = [] := by
  induction raw with
  | nil => rfl
  | cons c raw ih =>
    have hc := h c List.mem_cons_self
    have hraw := ih fun d hd => h d (List.mem_cons_of_mem c hd)
    rw [fullForm, Text.upperChars_cons, stripSeparators_append, upperChar_separator hc]
    simp only [stripSeparators, List.filter_cons, hc, Bool.not_true, Bool.false_eq_true, if_false,
      List.filter_nil, List.nil_append]
    exact hraw

example : forms "AES-256-CBC" = ["AES256CBC", "AES"] := by decide +kernel
example : forms "md5" = ["MD5"] := by decide +kernel

end CryptoAudit.Name
