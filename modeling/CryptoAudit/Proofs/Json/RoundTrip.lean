import CryptoAudit.Json.Write
import CryptoAudit.Proofs.Files.Store
import CryptoAudit.Proofs.Json.Grammar

/-!
# Written values are read back

The text of a value that is built from nothing, truth values, integers, texts, lists and mappings
with texts as keys reads as this value by the grammar of JSON, and as no other one. What stands
behind an integer in the text is never a part of a number, and what stands between quotes is read
back character by character, so no text in the value can be taken for structure.

## Main definitions

* `IsPayload`: the values that are written without loss
* `Written`: a value is written in full, and its text reads as the value

## Main results

* `numberValue?_decimal`: an integer is read back
* `readChar?_escapeChar`: a character is read back
* `written_of_isPayload`: a value is read back, wherever it stands
* `writeJson_roundTrip`: a file of JSON holds one value, the one that was written
-/

namespace CryptoAudit

namespace Json

/-! ### Integers -/

/-- Only the digits of zero start with a zero. -/
theorem head?_toDigits_ne {n : Nat} (h : n ≠ 0) : (Nat.toDigits 10 n).head? ≠ some '0' := by
  induction n using Nat.strongRecOn with
  | ind n ih =>
    by_cases hsmall : n < 10
    · rw [Nat.toDigits_of_lt_base hsmall]
      have : ∀ m < 10, m ≠ 0 → [m.digitChar].head? ≠ some '0' := by decide
      exact this n hsmall h
    · have hbase : 10 ≤ n := Nat.le_of_not_lt hsmall
      have htenth := ih (n / 10) (by omega) (by omega)
      rw [Nat.toDigits_of_base_le (by decide) hbase]
      cases hdigits : Nat.toDigits 10 (n / 10) with
      | nil => exact absurd hdigits Nat.toDigits_ne_nil
      | cons c cs =>
        rw [hdigits] at htenth
        exact htenth

theorem isDigit_of_mem_toDigits {n : Nat} {c : Char} (h : c ∈ Nat.toDigits 10 n) :
    isDigit c = true :=
  Nat.isDigit_of_mem_toDigits (by decide) (by decide) h

theorem isWordChar_of_isDigit {c : Char} (h : isDigit c = true) : isWordChar c = true := by
  have hdigit : c.isDigit = true := h
  simp [isWordChar, Char.isAlphanum, hdigit]

theorem isWordChar_of_mem_decimal {n : Int} {c : Char} (h : c ∈ (decimal n).toList) :
    isWordChar c = true := by
  rw [decimal, String.toList_ofList] at h
  split at h
  · rcases List.mem_cons.1 h with rfl | h
    · decide
    · exact isWordChar_of_isDigit (isDigit_of_mem_toDigits h)
  · exact isWordChar_of_isDigit (isDigit_of_mem_toDigits h)

/-- A run of characters of one kind ends where the first character of another kind stands. -/
theorem span_append {p : Char → Bool} {cs rest : List Char} (hcs : ∀ c ∈ cs, p c = true)
    (hrest : ∀ c ∈ rest.head?, p c = false) :
    (cs ++ rest).takeWhile p = cs ∧ (cs ++ rest).dropWhile p = rest := by
  rw [List.takeWhile_append_of_pos hcs, List.dropWhile_append_of_pos hcs]
  cases rest with
  | nil => exact ⟨List.append_nil cs, rfl⟩
  | cons c rest =>
    have hc : ¬ p c = true := Bool.eq_false_iff.1 (hrest c rfl)
    rw [List.takeWhile_cons_of_neg hc, List.dropWhile_cons_of_neg hc]
    exact ⟨List.append_nil cs, rfl⟩

/-- Digits with or without a minus sign denote an integer. -/
theorem numberValue?_of_splitMinus {cs : List Char} {negative : Bool} {n : Nat}
    (h : splitMinus cs = (negative, Nat.toDigits 10 n)) :
    numberValue? cs = some (.int (if negative then -Int.ofNat n else Int.ofNat n)) := by
  have hall : ∀ c ∈ Nat.toDigits 10 n, isDigit c = true := fun c => isDigit_of_mem_toDigits
  have hend : ∀ c ∈ ([] : List Char).head?, isDigit c = false := by simp
  obtain ⟨htake, hdrop⟩ := span_append hall hend
  rw [List.append_nil] at htake hdrop
  have hvalue : natOfDigits (Nat.toDigits 10 n) = n :=
    Nat.ofDigitChars_toDigits (by decide) (by decide)
  have hwhole : ((Nat.toDigits 10 n).isEmpty ||
      ((Nat.toDigits 10 n).head? = some '0' && (Nat.toDigits 10 n).length ≠ 1 : Bool)) = false := by
    by_cases hn : n = 0
    · rw [hn]
      decide
    · simp [head?_toDigits_ne hn, Nat.toDigits_ne_nil]
  simp only [numberValue?, h, htake, hdrop, hvalue, hwhole]
  rfl

theorem splitMinus_toDigits (n : Nat) :
    splitMinus (Nat.toDigits 10 n) = (false, Nat.toDigits 10 n) := by
  have hminus : '-' ∉ Nat.toDigits 10 n := fun h => absurd (isDigit_of_mem_toDigits h) (by decide)
  unfold splitMinus
  split
  · next heq => exact absurd (heq ▸ List.mem_cons_self) hminus
  · rfl

/-- An integer is read back. -/
theorem numberValue?_decimal (n : Int) : numberValue? (decimal n).toList = some (.int n) := by
  rw [decimal, String.toList_ofList]
  split
  case isTrue hneg =>
    have hminus : splitMinus ('-' :: Nat.toDigits 10 n.natAbs) =
        (true, Nat.toDigits 10 n.natAbs) := rfl
    have hn : -Int.ofNat n.natAbs = n := by rw [Int.ofNat_eq_natCast]; omega
    rw [numberValue?_of_splitMinus hminus, if_pos rfl, hn]
  case isFalse hneg =>
    have hn : Int.ofNat n.natAbs = n := by rw [Int.ofNat_eq_natCast]; omega
    rw [numberValue?_of_splitMinus (splitMinus_toDigits _), if_neg Bool.false_ne_true, hn]

/-! ### Texts -/

/-- A character is read back from its escape, whatever follows. -/
theorem readChar?_escapeChar (c : Char) (rest : List Char) :
    readChar? (escapeChar c ++ rest) = some (c, rest) := by
  rw [escapeChar]
  split_ifs with hquote hslash hnewline hreturn htab hbackspace hfeed hcontrol
  · rw [hquote]
    rfl
  · rw [hslash]
    rfl
  · rw [hnewline]
    rfl
  · rw [hreturn]
    rfl
  · rw [htab]
    rfl
  · rw [hbackspace]
    rfl
  · rw [hfeed]
    rfl
  · have hwidth : c.toNat < 16 ^ 4 := Nat.lt_trans hcontrol (by decide)
    have hplane : (c.toNat < 0xD800 || 0xE000 ≤ c.toNat : Bool) = true := by
      simp only [Bool.or_eq_true, decide_eq_true_eq]
      omega
    rw [List.cons_append, List.cons_append]
    simp only [readChar?, readCode?, Text.readHex?_hexDigits hwidth, bind, Option.bind,
      if_pos hplane, Char.ofNat_toNat]
  · rw [List.singleton_append]
    cases rest <;> simp [readChar?, hquote, hslash, hcontrol]

/-- The characters of a text are read back up to its closing quote. -/
theorem readsChars_flatMap (cs rest : List Char) :
    ReadsChars cs (cs.flatMap escapeChar ++ '"' :: rest) rest := by
  induction cs with
  | nil => exact .close
  | cons c cs ih =>
    rw [List.flatMap_cons, List.append_assoc]
    exact .char (readChar?_escapeChar c _) ih

theorem reads_quote (s : String) (rest : List Char) :
    Reads .value (.text s) (quote s ++ rest) rest := by
  have hread := Reads.text (readsChars_flatMap s.toList rest)
  rw [String.ofList_toList] at hread
  rw [quote, List.cons_append, List.append_assoc]
  exact hread

/-! ### Lines -/

theorem isSpace_of_mem_newLine {level : Nat} {c : Char} (h : c ∈ newLine level) :
    isSpace c = true := by
  rcases List.mem_cons.1 h with rfl | h
  · rfl
  · rw [(List.mem_replicate.1 h).2]
    rfl

theorem skipSpace_newLine (level : Nat) (cs : List Char) :
    skipSpace (newLine level ++ cs) = skipSpace cs :=
  List.dropWhile_append_of_pos fun _ => isSpace_of_mem_newLine

theorem Reads.blanks {v : Value} {cs input rest : List Char} (h : Reads .value v input rest)
    (hcs : ∀ c ∈ cs, isSpace c = true) : Reads .value v (cs ++ input) rest := by
  induction cs with
  | nil => exact h
  | cons c cs ih =>
    exact .space (hcs c List.mem_cons_self) (ih fun d hd => hcs d (List.mem_cons_of_mem c hd))

theorem Reads.newLine {v : Value} {input rest : List Char} (h : Reads .value v input rest)
    (level : Nat) : Reads .value v (newLine level ++ input) rest :=
  h.blanks fun _ => isSpace_of_mem_newLine

/-! ### Values -/

/-- The values that are written without loss: integers have few enough digits, and keys are
texts. -/
inductive IsPayload : Value → Prop
  | null : IsPayload .null
  | bool (b : Bool) : IsPayload (.bool b)
  | int {n : Int} (writable : (Value.int n).isWritable = true) : IsPayload (.int n)
  | text (s : String) : IsPayload (.text s)
  | list {vs : List Value} (items : ∀ v ∈ vs, IsPayload v) : IsPayload (.list vs)
  | map {entries : List (Value × Value)} (keys : ∀ entry ∈ entries, ∃ s, entry.1 = .text s)
    (values : ∀ entry ∈ entries, IsPayload entry.2) : IsPayload (.map entries)

/-- Whether a number in front of a text ends there. -/
def EndsWord (cs : List Char) : Prop :=
  ∀ c ∈ cs.head?, isWordChar c = false

/-- A value is written in full at any level, and its text reads as the value, whatever stands
behind it that is not a part of a number. -/
structure Written (v : Value) : Prop where
  sized : isOversized v = false
  fault (level : Nat) (rest : Draft) : (renderAt level rest v).fault = rest.fault
  reads (level : Nat) {rest : Draft} (ends : EndsWord rest.text) :
    Reads .value v (renderAt level rest v).text rest.text

/-- A value with the same text at every level. -/
theorem Written.of_after {v : Value} {cs : List Char} (sized : isOversized v = false)
    (render : ∀ level rest, renderAt level rest v = rest.after cs)
    (reads : ∀ rest, EndsWord rest → Reads .value v (cs ++ rest) rest) : Written v where
  sized := sized
  fault level rest := by rw [render, Draft.fault_after]
  reads level rest ends := by
    rw [render, Draft.text_after]
    exact reads rest.text ends

theorem reads_word {v : Value} {word rest : List Char} (hword : ∀ c ∈ word, isWordChar c = true)
    (hv : wordValue? word = some v) (hrest : EndsWord rest) :
    Reads .value v (word ++ rest) rest := by
  obtain ⟨htake, hdrop⟩ := span_append hword hrest
  rw [← htake] at hv
  have hread := Reads.word hv
  rwa [hdrop] at hread

theorem written_null : Written .null := by
  have hword : "null".toList.all isWordChar = true := by decide
  exact .of_after rfl (fun _ _ => by rw [renderAt]) fun rest =>
    reads_word (List.all_eq_true.1 hword) rfl

theorem written_bool (b : Bool) : Written (.bool b) := by
  have hword : (boolText b).toList.all isWordChar = true := by cases b <;> decide
  refine .of_after rfl (fun _ _ => by rw [renderAt]) fun rest =>
    reads_word (List.all_eq_true.1 hword) ?_
  cases b <;> rfl

theorem written_int {n : Int} (h : (Value.int n).isWritable = true) : Written (.int n) := by
  refine .of_after (by rw [isOversized, h]; rfl)
    (fun _ _ => by rw [renderAt, intText, if_pos h]) fun rest => ?_
  refine reads_word (fun c => isWordChar_of_mem_decimal) ?_
  rw [wordValue?, numberValue?_decimal, Option.some_or]

theorem written_text (s : String) : Written (.text s) :=
  .of_after rfl (fun _ _ => by rw [renderAt]) fun rest _ => reads_quote s rest

theorem lead_of_sized {v : Value} (h : isOversized v = false) (cs : List Char) (item : Draft) :
    lead cs v item = item.after cs := by
  rw [lead, h]
  rfl

/-- A text behind a value is written in full, does not go on with a number, and is read as a part
with some content. -/
structure Follows (part : Part) (v : Value) (text rest : Draft) : Prop where
  fault : text.fault = rest.fault
  ends : EndsWord text.text
  reads : Reads part v text.text rest.text

theorem endsWord_newLine (level : Nat) (cs : List Char) : EndsWord (newLine level ++ cs) := by
  rintro c ⟨⟩
  rfl

theorem endsWord_comma (cs : List Char) : EndsWord (',' :: cs) := by
  rintro c ⟨⟩
  rfl

/-- What stands behind an item of a list is read up to the closing bracket. -/
theorem follows_renderItems (level outer : Nat) (rest : Draft) {vs : List Value}
    (h : ∀ v ∈ vs, Written v) :
    Follows .moreItems (.list vs) (renderItems level (rest.after (newLine outer ++ [']'])) vs)
      rest := by
  induction vs with
  | nil =>
    rw [renderItems]
    refine ⟨rfl, ?_, .noItem ?_⟩
    · rw [Draft.text_after, List.append_assoc]
      exact endsWord_newLine outer _
    · rw [Draft.text_after, List.append_assoc, skipSpace_newLine]
      rfl
  | cons v vs ih =>
    have hrest := ih fun w hw => h w (List.mem_cons_of_mem v hw)
    have hv := h v List.mem_cons_self
    rw [renderItems, lead_of_sized hv.sized]
    refine ⟨?_, ?_, ?_⟩
    · rw [Draft.fault_after, hv.fault, hrest.fault]
    · exact endsWord_comma _
    · rw [Draft.text_after, List.cons_append]
      exact .item rfl ((hv.reads level hrest.ends).newLine level) hrest.reads

theorem written_list {vs : List Value} (h : ∀ v ∈ vs, Written v) : Written (.list vs) := by
  cases vs with
  | nil => exact .of_after rfl (fun _ _ => by rw [renderAt]) fun rest _ => .emptyList rfl
  | cons v vs =>
    have hv := h v List.mem_cons_self
    -- An item may end with a number, so what stands behind it must not go on with one.
    have hvs := fun level rest =>
      follows_renderItems (level + 1) level rest fun w hw => h w (List.mem_cons_of_mem v hw)
    refine ⟨rfl, fun level rest => ?_, fun level {rest} _ => ?_⟩
    · rw [renderAt, lead_of_sized hv.sized, Draft.fault_after, hv.fault, (hvs level rest).fault]
    · have hrest := hvs level rest
      rw [renderAt, lead_of_sized hv.sized, Draft.text_after, List.cons_append]
      exact .list ((hv.reads (level + 1) hrest.ends).newLine (level + 1)) hrest.reads

/-- A key and its value on a line of their own are read as a member. -/
theorem reads_member {v : Value} (hv : Written v) (key : String) (level : Nat) {rest : Draft}
    (ends : EndsWord rest.text) :
    Reads .member (.map [(.text key, v)])
      (newLine level ++ (quote key ++ ':' :: ' ' :: (renderAt level rest v).text)) rest.text := by
  have hname := (reads_quote key (':' :: ' ' :: (renderAt level rest v).text)).newLine level
  exact .member hname rfl (.space rfl (hv.reads level ends))

theorem keyed_text (cs : List Char) (key : String) (rest : Draft) :
    keyed cs (.text key) rest = rest.after (cs ++ quote key ++ [':', ' ']) :=
  rfl

/-- What stands behind a member of an object is read up to the closing brace. -/
theorem follows_renderEntries (level outer : Nat) (rest : Draft)
    {entries : List (Value × Value)} (keys : ∀ entry ∈ entries, ∃ s, entry.1 = .text s)
    (h : ∀ entry ∈ entries, Written entry.2) :
    Follows .moreMembers (.map entries)
      (renderEntries level (rest.after (newLine outer ++ ['\x7d'])) entries) rest := by
  induction entries with
  | nil =>
    rw [renderEntries]
    refine ⟨rfl, ?_, .noMember ?_⟩
    · rw [Draft.text_after, List.append_assoc]
      exact endsWord_newLine outer _
    · rw [Draft.text_after, List.append_assoc, skipSpace_newLine]
      rfl
  | cons entry entries ih =>
    obtain ⟨k, v⟩ := entry
    obtain ⟨key, rfl⟩ : ∃ s, k = .text s := keys _ List.mem_cons_self
    have hrest := ih (fun e he => keys e (List.mem_cons_of_mem _ he)) fun e he =>
      h e (List.mem_cons_of_mem _ he)
    have hv : Written v := h _ List.mem_cons_self
    rw [renderEntries, keyed_text]
    refine ⟨?_, ?_, ?_⟩
    · rw [Draft.fault_after, hv.fault, hrest.fault]
    · exact endsWord_comma _
    · have hmember := reads_member hv key level hrest.ends
      refine .moreMembers rfl ?_ hrest.reads
      simpa [Draft.text_after] using hmember

theorem written_map {entries : List (Value × Value)}
    (keys : ∀ entry ∈ entries, ∃ s, entry.1 = .text s)
    (h : ∀ entry ∈ entries, Written entry.2) : Written (.map entries) := by
  cases entries with
  | nil => exact .of_after rfl (fun _ _ => by rw [renderAt]) fun rest _ => .emptyMap rfl
  | cons entry entries =>
    obtain ⟨k, v⟩ := entry
    obtain ⟨key, rfl⟩ : ∃ s, k = .text s := keys _ List.mem_cons_self
    have hv : Written v := h _ List.mem_cons_self
    have hentries := fun level rest =>
      follows_renderEntries (level + 1) level rest
        (fun e he => keys e (List.mem_cons_of_mem _ he)) fun e he =>
        h e (List.mem_cons_of_mem _ he)
    refine ⟨rfl, fun level rest => ?_, fun level {rest} _ => ?_⟩
    · rw [renderAt, keyed_text, Draft.fault_after, Draft.fault_after, hv.fault,
        (hentries level rest).fault]
    · have hrest := hentries level rest
      have hmember := reads_member hv key (level + 1) hrest.ends
      rw [renderAt, keyed_text, Draft.text_after]
      refine .map ?_ hrest.reads
      simpa [Draft.text_after] using hmember

/-- A value is read back, wherever it stands. -/
theorem written_of_isPayload {v : Value} (h : IsPayload v) : Written v := by
  induction h with
  | null => exact written_null
  | bool b => exact written_bool b
  | int writable => exact written_int writable
  | text s => exact written_text s
  | list items ih => exact written_list ih
  | map keys values ih => exact written_map keys ih

/-- The text of a value that is written. -/
def text (v : Value) : String :=
  String.ofList (render v).text

theorem fault_render {v : Value} (h : IsPayload v) : (render v).fault = none :=
  (written_of_isPayload h).fault 0 .done

theorem isText_text {v : Value} (h : IsPayload v) : IsText (text v) v := by
  refine ⟨[], ?_, rfl⟩
  rw [text, String.toList_ofList]
  exact (written_of_isPayload h).reads 0 (by rintro c ⟨⟩)

end Json

/-! ### Files -/

/-- A text is known from its bytes. -/
theorem utf8_injective {s t : String} (h : utf8 s = utf8 t) : s = t :=
  String.toByteArray_inj.1 (ByteArray.ext (Array.toList_inj.1 h))

namespace Files

open Json (IsPayload)

/-- A value is written whenever its text can be written to the file. -/
theorem writeJson_eq_ok_iff {v : Value} (hv : IsPayload v) {files files' : Files} {path : Path} :
    files.writeJson path v = (files', .ok ()) ↔
      ∃ made, files.makeDirs path.parent = (made, .ok ()) ∧
        made.write path (Json.text v) = .ok files' := by
  have hfault := Json.fault_render hv
  unfold writeJson Json.text
  rcases files.makeDirs path.parent with ⟨made, e | u⟩
  · simp
  · cases hwrite : made.write path (String.ofList (Json.render v).text) <;> simp [hwrite, hfault]

/-- The file at the end of the path holds the text. -/
theorem fileAt?_of_writeJson {v : Value} (hv : IsPayload v) {files files' : Files} {path : Path}
    (h : files.writeJson path v = (files', .ok ())) :
    files'.fileAt? (destination path) = some (.text (Json.text v)) := by
  obtain ⟨made, -, hwrite⟩ := (writeJson_eq_ok_iff hv).1 h
  obtain ⟨l, hlocate, rfl⟩ := write_eq_ok hwrite
  obtain ⟨rfl, hdirectory⟩ := locateFile_eq_ok hlocate
  exact fileAt?_put_file (isFixed_of_nodeAt_ne hdirectory)

theorem bytesAt_of_writeJson {v : Value} (hv : IsPayload v) {files files' : Files} {path : Path}
    (h : files.writeJson path v = (files', .ok ())) :
    files'.bytesAt (destination path) = utf8 (Json.text v) := by
  rw [bytesAt, contentAt_eq, fileAt?_of_writeJson hv h]
  rfl

/-- The text of a value is read as this value and as no other one, by the grammar of JSON. A value
is written whenever its text can be written, and then the file holds this text, so that files that
are equal byte by byte hold the same value. -/
theorem writeJson_roundTrip {v : Value} (hv : IsPayload v) :
    (Json.IsText (Json.text v) v ∧ ∀ w, Json.IsText (Json.text v) w → w = v) ∧
    (∀ (files files' : Files) (path : Path), files.writeJson path v = (files', .ok ()) ↔
      ∃ made, files.makeDirs path.parent = (made, .ok ()) ∧
        made.write path (Json.text v) = .ok files') ∧
    ∀ (files files' : Files) (path : Path), files.writeJson path v = (files', .ok ()) →
      files'.fileAt? (destination path) = some (.text (Json.text v)) ∧
      ∀ (w : Value) (base after : Files) (other : Path), IsPayload w →
        base.writeJson other w = (after, .ok ()) →
        after.bytesAt (destination other) = files'.bytesAt (destination path) → w = v := by
  have hread : ∀ w, Json.IsText (Json.text v) w → w = v :=
    fun w hw => hw.unique (Json.isText_text hv)
  refine ⟨⟨Json.isText_text hv, hread⟩, fun files files' path => writeJson_eq_ok_iff hv, ?_⟩
  intro files files' path h
  refine ⟨fileAt?_of_writeJson hv h, ?_⟩
  intro w base after other hw hother hbytes
  rw [bytesAt_of_writeJson hw hother, bytesAt_of_writeJson hv h] at hbytes
  apply hread w
  rw [← utf8_injective hbytes]
  exact Json.isText_text hw

/-- A value with texts that look like structure, control characters and empty containers. -/
def nestedPayload : Value :=
  .map [(.text "a\"],", .list []), (.text "é\u2028", .list [.null, .int (-120), .text "\\\x01/"]),
    (.text "", .map [(.text "k", .map []), (.text "K", .bool true)])]

theorem isPayload_nestedPayload : IsPayload nestedPayload := by
  have hint : IsPayload (.int (-120)) := .int (by decide)
  have hitems : ∀ v ∈ [Value.null, .int (-120), .text "\\\x01/"], IsPayload v := by
    simp [IsPayload.null, IsPayload.text, hint]
  have hmembers : IsPayload (.map [(.text "k", .map []), (.text "K", .bool true)]) :=
    .map (by simp) (by simp [IsPayload.bool, IsPayload.map])
  exact .map (by simp) (by simp [IsPayload.list, IsPayload.list hitems, hmembers])

/-- It is written to a file, and only this value has its text. -/
theorem writeJson_roundTrip_nested :
    IsPayload nestedPayload ∧
      Json.text nestedPayload =
        "\x7b\n  \"a\\\"],\": [],\n  \"é\u2028\": [\n    null,\n    -120,\n" ++
        "    \"\\\\\\u0001/\"\n  ],\n" ++
        "  \"\": \x7b\n    \"k\": \x7b\x7d,\n    \"K\": true\n  \x7d\n\x7d" ∧
      (∀ w, Json.IsText (Json.text nestedPayload) w → w = nestedPayload) ∧
      ∃ files', empty.writeJson (Path.ofText "out/a.json") nestedPayload = (files', .ok ()) ∧
        files'.fileAt? (destination (Path.ofText "out/a.json")) =
          some (.text (Json.text nestedPayload)) := by
  obtain ⟨⟨-, hread⟩, -, hfile⟩ := writeJson_roundTrip isPayload_nestedPayload
  refine ⟨isPayload_nestedPayload, by decide +kernel, hread, ?_⟩
  have hsome : (empty.writeJson (Path.ofText "out/a.json") nestedPayload).2.toOption.isSome =
      true := by decide +kernel
  rcases hwrite : empty.writeJson (Path.ofText "out/a.json") nestedPayload with ⟨files', e | u⟩
  · rw [hwrite] at hsome
    cases hsome
  · exact ⟨files', rfl, (hfile _ _ _ hwrite).1⟩

end Files

end CryptoAudit
