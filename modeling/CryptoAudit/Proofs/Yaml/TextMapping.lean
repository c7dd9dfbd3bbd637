import CryptoAudit.Proofs.Yaml.Quoted
import CryptoAudit.Yaml.Document

/-!
# Mappings of texts

A mapping of texts can be written in one line, between braces and with every text in double quotes.
Whatever the texts are, its value is the mapping, as long as no key takes more than the 1024
characters within which a colon has to follow.

The tokens are read one after the other. A state in the first line is described by what it has read
and what is left, and each mark leads from one such state to the next. A text in double quotes is
read as a scalar first; the colon after it makes it a key, and the token of the key is put in before
it.

## Main definitions

* `textMapping`: some entries as a text
* `Layout.Stands`: a state in the first line of a text
* `Layout.KeyBehind`: where the latest key may have started
* `Layout.Steps`: one token is read
* `entryTokens`, `entryNodes`: the tokens and the nodes of an entry

## Main results

* `Layout.Stands.text`, `Layout.Stands.colon`: a text, and a colon that makes it a key
* `tokens_textMapping`, `document_textMapping`: the tokens and the node of such a text
* `parse_textMapping`: the value is what was written
-/

namespace CryptoAudit.Yaml

/-- Entries in double quotes with a comma after each, and the closing brace. -/
def textEntries : List (String × String) → List Char
  | [] => ['\x7d']
  | (key, value) :: entries =>
    escapedText key ++ ':' :: (escapedText value ++ ',' :: textEntries entries)

/-- A mapping of texts between braces. -/
def textMapping (entries : List (String × String)) : List Char :=
  '\x7b' :: textEntries entries

/-- The characters that a token of such a mapping starts with, and what is read past the end. -/
def marks : List Char :=
  ['"', ':', ',', '\x7b', '\x7d', endMark]

namespace Layout

/-- The state in the first line of a text: so many brackets are open, no block is, and the rest of
the text is still to be read. -/
structure Stands (s : Layout) (depth : Nat) (allowsKey : Bool) (latest : List Token)
    (rest : List Char) : Prop where
  depth : s.depth = depth
  allowsKey : s.allowsKey = allowsKey
  latest : s.latest = latest
  rest : s.cursor.rest = rest
  line : s.cursor.line = 0
  indent : s.indent = -1
  outer : s.outer = []
  free : ∀ key ∈ s.keys, key.2.required = false

/-- A place where a key may have started is not too far behind. -/
def isFresh (c : Cursor) (key : Nat × KeyPlace) : Bool :=
  !(key.2.line != c.line || 1024 + key.2.index < c.index)

variable {s t : Layout} {depth : Nat} {allowsKey : Bool} {latest : List Token} {rest : List Char}
  {x : Char}

/-- Fewer places of keys do no harm. -/
theorem Stands.withKeys (h : s.Stands depth allowsKey latest rest) {keys : List (Nat × KeyPlace)}
    (hkeys : ∀ key ∈ keys, key ∈ s.keys) :
    Stands { s with keys := keys } depth allowsKey latest rest :=
  { h with free := fun key hkey => h.free key (hkeys key hkey) }

/-- The latest place of a key is at this depth, so many tokens and characters behind. -/
def KeyBehind (s : Layout) (tokens width : Nat) : Prop :=
  ∃ key keys, s.keys = (s.depth, key) :: keys ∧ s.latest.length = key.position + tokens ∧
    s.cursor.index = key.index + width ∧ key.line = s.cursor.line

/-- No mark is passed over on the way to the next token. -/
theorem not_passed (hx : x ∈ marks) :
    (x == ' ') = false ∧ isBreak x = false ∧ x ≠ '#' ∧ x ≠ '\uFEFF' := by
  have hall : (marks.all fun x =>
      x != ' ' && !isBreak x && x != '#' && x != '\uFEFF') = true := by decide
  simpa [and_assoc] using List.all_eq_true.1 hall x hx

theorem toNext_eq (hmark : s.cursor.peek ∈ marks) (fuel : Nat) : toNext (fuel + 1) s = s := by
  obtain ⟨hspace, hbreak, hhash, -⟩ := not_passed hmark
  have hskip : s.cursor.skip (· == ' ') = s.cursor := by
    rw [Cursor.skip, Cursor.span_of_not hspace]
  simp [toNext, hskip, Cursor.skipComment, hhash, hbreak]

theorem Stands.close_eq (h : s.Stands depth allowsKey latest rest) {column : Int}
    (hcolumn : -1 ≤ column) : s.close column = s := by
  rw [close, h.outer, closeTo, h.indent, if_neg]
  simp [hcolumn]

theorem Stands.dropStaleKeys_eq (h : s.Stands depth allowsKey latest rest) :
    s.dropStaleKeys = .ok { s with keys := s.keys.filter (isFresh s.cursor) } := by
  rw [dropStaleKeys, if_neg]
  · rfl
  · rw [List.any_eq_true]
    rintro ⟨key, hkey, hstale⟩
    simp [h.free key hkey] at hstale

/-- A mark is where the next token starts. Only places of keys that are too far behind are
forgotten there. -/
theorem Stands.exists_advance (h : s.Stands depth allowsKey latest rest)
    (hmark : s.cursor.peek ∈ marks) :
    ∃ t, s.advance = .ok t ∧ t.cursor = s.cursor ∧ t.Stands depth allowsKey latest rest ∧
      ∀ tokens, ∀ width ≤ 1024, s.KeyBehind tokens width → t.KeyBehind tokens width := by
  have hstart : (s.cursor.index = 0 && s.cursor.peek = '\uFEFF') = false := by
    simp [(not_passed hmark).2.2.2]
  have hfresh := h.withKeys fun _ hkey => (List.mem_filter (p := isFresh s.cursor).1 hkey).1
  refine ⟨{ s with keys := s.keys.filter (isFresh s.cursor) }, ?_, rfl, hfresh, ?_⟩
  · rw [advance]
    simp only [hstart, Bool.false_eq_true, if_false]
    rw [Cursor.fuel, toNext_eq hmark, h.dropStaleKeys_eq]
    exact congrArg Except.ok (hfresh.close_eq (Int.le_trans (by decide) (Int.natCast_nonneg _)))
  · rintro tokens width hwidth ⟨key, keys, hkeys, hposition, hindex, hline⟩
    have hkept : isFresh s.cursor (s.depth, key) = true := by
      simp only [isFresh, hline, hindex, bne_self_eq_false, Bool.false_or]
      simp
      omega
    refine ⟨key, keys.filter (isFresh s.cursor), ?_, hposition, hindex, hline⟩
    rw [hkeys]
    exact List.filter_cons_of_pos hkept

/-! ### The tokens of the marks -/

theorem not_atMarker {c : Cursor} (hrest : c.rest = x :: rest) (hx : x ∈ marks) :
    c.atMarker "---" = false ∧ c.atMarker "..." = false := by
  have hall : (marks.all fun x => x != '-' && x != '.') = true := by decide
  obtain ⟨hdash, hdot⟩ : x ≠ '-' ∧ x ≠ '.' := by simpa using List.all_eq_true.1 hall x hx
  constructor <;> simp [Cursor.atMarker, hrest, hdash, hdot]

theorem readToken_quote (hrest : s.cursor.rest = '"' :: rest) :
    s.readToken = s.content (quotedScalar true) := by
  obtain ⟨hdashes, hdots⟩ := not_atMarker hrest (by decide)
  simp [readToken, Cursor.peek_eq hrest, hdashes, hdots]

theorem readToken_colon (hrest : s.cursor.rest = ':' :: rest) (hflow : s.inFlow = true) :
    s.readToken = s.colon := by
  obtain ⟨hdashes, hdots⟩ := not_atMarker hrest (by decide)
  simp [readToken, Cursor.peek_eq hrest, hdashes, hdots, hflow]

theorem readToken_comma (hrest : s.cursor.rest = ',' :: rest) : s.readToken = s.comma := by
  obtain ⟨hdashes, hdots⟩ := not_atMarker hrest (by decide)
  simp [readToken, Cursor.peek_eq hrest, hdashes, hdots]

theorem readToken_openBrace (hrest : s.cursor.rest = '\x7b' :: rest) :
    s.readToken = s.openBracket .flowMappingStart := by
  obtain ⟨hdashes, hdots⟩ := not_atMarker hrest (by decide)
  simp [readToken, Cursor.peek_eq hrest, hdashes, hdots]

theorem readToken_closeBrace (hrest : s.cursor.rest = '\x7d' :: rest) :
    s.readToken = s.closeBracket .flowMappingEnd := by
  obtain ⟨hdashes, hdots⟩ := not_atMarker hrest (by decide)
  simp [readToken, Cursor.peek_eq hrest, hdashes, hdots]

/-! ### The places of keys -/

/-- The place of a key is forgotten without a fault, since a value could stand there as well. -/
theorem Stands.exists_dropKey (h : s.Stands depth allowsKey latest rest) :
    ∃ t, s.dropKey = .ok t ∧ t.cursor = s.cursor ∧ t.Stands depth allowsKey latest rest := by
  rw [dropKey]
  cases hlookup : s.keys.lookup s.depth with
  | none => exact ⟨s, rfl, rfl, h⟩
  | some key =>
    obtain ⟨before, after, hkeys, -⟩ := List.lookup_eq_some_iff.1 hlookup
    have hmem : (s.depth, key) ∈ s.keys := by simp [hkeys]
    have hfree : key.required = false := h.free _ hmem
    refine ⟨{ s with keys := s.keys.filter (·.1 != s.depth) }, ?_, rfl, h.withKeys ?_⟩
    · simp [hfree]
    · exact fun key hkey => (List.mem_filter.1 hkey).1

/-- Where a key may start, its place is noted. -/
theorem Stands.exists_noteKey (h : s.Stands depth allowsKey latest rest) :
    ∃ t, s.noteKey = .ok t ∧ t.cursor = s.cursor ∧ t.Stands depth allowsKey latest rest ∧
      (allowsKey = true → t.KeyBehind 0 0) := by
  rw [noteKey]
  cases hallows : allowsKey with
  | false => exact ⟨s, if_neg (by simp [h.allowsKey, hallows]), rfl, hallows ▸ h, nofun⟩
  | true =>
    obtain ⟨t, hdrop, hcursor, ht⟩ := h.exists_dropKey
    rw [if_pos (h.allowsKey.trans hallows), hdrop]
    refine ⟨_, rfl, hcursor, ?_, fun _ => ⟨_, _, rfl, rfl, rfl, rfl⟩⟩
    have hfree : (!t.inFlow && t.indent == Int.ofNat t.cursor.column) = false := by
      simp [ht.indent]
    exact { hallows ▸ ht with free := List.forall_mem_cons.2 ⟨hfree, ht.free⟩ }

/-! ### Steps -/

/-- One round of reading. It holds by computation; the equation that the compiler would derive for
`readAll` is out of its reach. -/
theorem readAll_succ (fuel : Nat) (s : Layout) :
    readAll (fuel + 1) s =
      match s.advance with
      | .error f => s.push (.fault f)
      | .ok s =>
        if s.cursor.peek = endMark then
          match s.leaveAll with
          | .error f => s.push (.fault f)
          | .ok s => s.push .streamEnd
        else match s.readToken with
          | .error f => s.push (.fault f)
          | .ok s => readAll fuel s := by
  rfl

/-- One token is read, and with it the second state is reached. -/
def Steps (s t : Layout) : Prop :=
  ∃ u, s.advance = .ok u ∧ u.cursor.peek ≠ endMark ∧ u.readToken = .ok t

theorem Steps.readAll_eq (h : s.Steps t) (fuel : Nat) : readAll (fuel + 1) s = readAll fuel t := by
  obtain ⟨u, hadvance, hpeek, hread⟩ := h
  simp only [readAll_succ, hadvance, hpeek, if_false, hread]

/-- The state where the next token starts, when it starts with a mark. -/
theorem Stands.exists_token (h : s.Stands depth allowsKey latest (x :: rest)) (hx : x ∈ marks)
    (hend : x ≠ endMark) :
    ∃ u : Layout, u.Stands depth allowsKey latest (x :: rest) ∧
      (∀ t, u.readToken = .ok t → s.Steps t) ∧
      ∀ tokens, ∀ width ≤ 1024, s.KeyBehind tokens width → u.KeyBehind tokens width := by
  have hpeek : s.cursor.peek = x := Cursor.peek_eq h.rest
  obtain ⟨u, hadvance, hcursor, hu, hbehind⟩ := h.exists_advance (hpeek ▸ hx)
  have hmark : u.cursor.peek ≠ endMark := by rw [hcursor, hpeek]; exact hend
  exact ⟨u, hu, fun t hread => ⟨u, hadvance, hmark, hread⟩, hbehind⟩

/-- The state after a mark that is a token of its own. -/
theorem Stands.take (h : s.Stands depth allowsKey latest (x :: rest)) (hx : x ∈ marks)
    (token : Token) (allowsNext : Bool) :
    Stands { s.take 1 token with allowsKey := allowsNext } depth allowsNext (token :: latest)
      rest :=
  have hpass := Cursor.Passes.step h.rest (not_passed hx).2.1
  { h with
    allowsKey := rfl
    latest := congrArg _ h.latest
    rest := hpass.rest_eq h.rest
    line := hpass.line.trans h.line }

theorem Stands.openBrace (h : s.Stands depth true latest ('\x7b' :: rest)) :
    ∃ t, s.Steps t ∧ t.Stands (depth + 1) true (.flowMappingStart :: latest) rest := by
  obtain ⟨u, hu, hsteps, -⟩ := h.exists_token (by decide) (by decide)
  obtain ⟨v, hnote, -, hv, -⟩ := hu.exists_noteKey
  have hread : u.readToken = .ok
      { v.take 1 .flowMappingStart with depth := v.depth + 1, allowsKey := true } := by
    rw [readToken_openBrace hu.rest, openBracket, hnote]
    rfl
  refine ⟨_, hsteps _ hread, ?_⟩
  exact { hv.take (by decide) .flowMappingStart true with depth := congrArg (· + 1) hv.depth }

theorem Stands.closeBrace (h : s.Stands (depth + 1) allowsKey latest ('\x7d' :: rest)) :
    ∃ t, s.Steps t ∧ t.Stands depth false (.flowMappingEnd :: latest) rest := by
  obtain ⟨u, hu, hsteps, -⟩ := h.exists_token (by decide) (by decide)
  obtain ⟨v, hdrop, -, hv⟩ := hu.exists_dropKey
  have hflow : u.inFlow = true := by simp [inFlow, hu.depth]
  have hread : u.readToken = .ok
      { v.take 1 .flowMappingEnd with depth := v.depth - 1, allowsKey := false } := by
    rw [readToken_closeBrace hu.rest, closeBracket, hdrop]
    simp [hflow, bind, Except.bind, pure, Except.pure]
  refine ⟨_, hsteps _ hread, ?_⟩
  exact { hv.take (by decide) .flowMappingEnd false with depth := congrArg (· - 1) hv.depth }

theorem Stands.comma (h : s.Stands depth allowsKey latest (',' :: rest)) :
    ∃ t, s.Steps t ∧ t.Stands depth true (.flowEntry :: latest) rest := by
  obtain ⟨u, hu, hsteps, -⟩ := h.exists_token (by decide) (by decide)
  obtain ⟨v, hdrop, -, hv⟩ := hu.exists_dropKey
  have hread : u.readToken = .ok { v.take 1 .flowEntry with allowsKey := true } := by
    rw [readToken_comma hu.rest, Layout.comma, hdrop]
    rfl
  exact ⟨_, hsteps _ hread, hv.take (by decide) .flowEntry true⟩

/-- A text in double quotes is one token. Where a key may start, the text may be one. -/
theorem Stands.text {text : String}
    (h : s.Stands depth allowsKey latest (escapedText text ++ rest)) :
    ∃ t, s.Steps t ∧ t.Stands depth false (.scalar text false :: latest) rest ∧
      (allowsKey = true → t.KeyBehind 1 (escapedText text).length) := by
  obtain ⟨u, hu, hsteps, -⟩ := h.exists_token (by decide) (by decide)
  obtain ⟨v, hnote, hcursor, hv, hbehind⟩ := hu.exists_noteKey
  obtain ⟨c, hscalar, hpasses⟩ := quotedScalar_escapedText hv.rest
  have hread : u.readToken = .ok
      { v.push (.scalar text false) with cursor := c, allowsKey := false } := by
    rw [readToken_quote hu.rest, content, hnote]
    simp [bind, Except.bind, pure, Except.pure, hscalar]
  refine ⟨_, hsteps _ hread, ?_, fun hallows => ?_⟩
  · exact { hv with
      allowsKey := rfl
      latest := congrArg _ hv.latest
      rest := hpasses.rest_eq hv.rest
      line := hpasses.line.trans hv.line }
  · obtain ⟨key, keys, hkeys, hposition, hindex, hline⟩ := hbehind hallows
    exact ⟨key, keys, hkeys, congrArg (· + 1) hposition,
      hpasses.index.trans (congrArg (· + _) hindex), hline.trans hpasses.line.symm⟩

/-- At a colon the token before it becomes a key, if it is not too long. -/
theorem Stands.colon {token : Token} {width : Nat}
    (h : s.Stands (depth + 1) false (token :: latest) (':' :: rest))
    (hbehind : s.KeyBehind 1 width) (hwidth : width ≤ 1024) :
    ∃ t, s.Steps t ∧ t.Stands (depth + 1) false (.value :: token :: .key :: latest) rest := by
  obtain ⟨u, hu, hsteps, hkept⟩ := h.exists_token (by decide) (by decide)
  obtain ⟨key, keys, hkeys, hposition, -, -⟩ := hkept _ _ hwidth hbehind
  have hflow : u.inFlow = true := by simp [inFlow, hu.depth]
  have hlookup : u.keys.lookup u.depth = some key := by rw [hkeys]; exact List.lookup_cons_self
  have hlater : latest.length + 1 - key.position = 1 := by
    have hlatest : u.latest.length = latest.length + 1 := congrArg List.length hu.latest
    omega
  have hread : u.readToken = .ok
      { u.take 1 .value with
        latest := .value :: token :: .key :: latest
        allowsKey := false
        keys := u.keys.filter (·.1 != u.depth) } := by
    rw [readToken_colon hu.rest hflow, Layout.colon, hlookup]
    simp [insert, hu.latest, hlater, inFlow, hu.depth, Layout.take, pure, Except.pure]
  refine ⟨_, hsteps _ hread, ?_⟩
  exact { hu.take (by decide) .value false with
    latest := rfl
    free := fun key hkey => hu.free key (List.mem_filter.1 hkey).1 }

/-- At the end of a text the stream ends. -/
theorem Stands.readAll_end (h : s.Stands depth allowsKey latest []) (fuel : Nat) :
    (readAll (fuel + 1) s).latest = .streamEnd :: latest := by
  have hpeek : s.cursor.peek = endMark := by rw [Cursor.peek, h.rest]; rfl
  obtain ⟨u, hadvance, hcursor, hu, -⟩ := h.exists_advance (hpeek ▸ by decide)
  obtain ⟨v, hdrop, -, hv⟩ := hu.exists_dropKey
  have hleave : u.leaveAll = .ok { v with allowsKey := false } := by
    rw [leaveAll, hu.close_eq (by decide), hdrop]
    rfl
  simp only [readAll_succ, hadvance, hcursor, hpeek, if_true, hleave]
  exact congrArg _ hv.latest

end Layout

/-! ### The tokens of a mapping -/

/-- The tokens of an entry, with the comma after it. -/
def entryTokens (entry : String × String) : List Token :=
  [.key, .scalar entry.1 false, .value, .scalar entry.2 false, .flowEntry]

namespace Layout

variable {s : Layout} {depth : Nat} {latest : List Token} {rest : List Char}

/-- An entry is read in four steps. -/
theorem Stands.entry {key value : String} (hkey : (escapedText key).length ≤ 1024)
    (h : s.Stands (depth + 1) true latest
      (escapedText key ++ ':' :: (escapedText value ++ ',' :: rest))) :
    ∃ t, (∀ fuel, readAll (fuel + 4) s = readAll fuel t) ∧
      t.Stands (depth + 1) true ((entryTokens (key, value)).reverse ++ latest) rest := by
  obtain ⟨s₁, hstep₁, h₁, hbehind⟩ := h.text
  obtain ⟨s₂, hstep₂, h₂⟩ := h₁.colon (hbehind rfl) hkey
  obtain ⟨s₃, hstep₃, h₃, -⟩ := h₂.text
  obtain ⟨s₄, hstep₄, h₄⟩ := h₃.comma
  refine ⟨s₄, fun fuel => ?_, h₄⟩
  rw [hstep₁.readAll_eq, hstep₂.readAll_eq, hstep₃.readAll_eq, hstep₄.readAll_eq]

/-- The rest of a mapping is read entry by entry up to the closing brace. -/
theorem Stands.readAll_textEntries {entries : List (String × String)}
    (hkeys : ∀ entry ∈ entries, (escapedText entry.1).length ≤ 1024)
    (h : s.Stands (depth + 1) true latest (textEntries entries)) (fuel : Nat) :
    (readAll (fuel + 2 + 4 * entries.length) s).latest =
      .streamEnd :: .flowMappingEnd :: ((entries.flatMap entryTokens).reverse ++ latest) := by
  -- By induction on the entries, for any tokens so far: a comma leads back to a state of the same
  -- kind, in which the next key may start.
  induction entries generalizing s latest with
  | nil =>
    obtain ⟨t, hstep, ht⟩ := h.closeBrace
    rw [List.length_nil, Nat.mul_zero, Nat.add_zero, hstep.readAll_eq, ht.readAll_end]
    rfl
  | cons entry entries ih =>
    obtain ⟨t, hread, ht⟩ := h.entry (hkeys entry List.mem_cons_self)
    have hrest := ih (fun e he => hkeys e (List.mem_cons_of_mem entry he)) ht
    rw [List.length_cons, Nat.mul_succ, ← Nat.add_assoc, hread, hrest, List.flatMap_cons,
      List.reverse_append, List.append_assoc]

end Layout

theorem length_le_length_textEntries (entries : List (String × String)) :
    4 * entries.length + 1 ≤ (textEntries entries).length := by
  induction entries with
  | nil => exact Nat.le_refl 1
  | cons entry entries ih =>
    simp only [textEntries, escapedText, List.length_append, List.length_cons, List.length_nil]
    omega

theorem tokens_textMapping {entries : List (String × String)}
    (hkeys : ∀ entry ∈ entries, (escapedText entry.1).length ≤ 1024) :
    tokens (textMapping entries) =
      .flowMappingStart :: (entries.flatMap entryTokens ++ [.flowMappingEnd, .streamEnd]) := by
  have hstart : (Layout.start (textMapping entries)).Stands 0 true [] (textMapping entries) :=
    ⟨rfl, rfl, rfl, rfl, rfl, rfl, rfl, nofun⟩
  obtain ⟨s, hstep, hs⟩ := hstart.openBrace
  -- The text is longer than the number of its tokens, so there are enough rounds.
  obtain ⟨more, hmore⟩ := Nat.exists_eq_add_of_le (length_le_length_textEntries entries)
  have hfuel : (textMapping entries).length + 2 = more + 1 + 2 + 4 * entries.length + 1 := by
    rw [textMapping, List.length_cons, hmore]
    omega
  rw [tokens, hfuel, hstep.readAll_eq, hs.readAll_textEntries hkeys]
  simp

/-! ### The nodes of a mapping -/

/-- The nodes of an entry. -/
def entryNodes (entry : String × String) : Node × Node :=
  (.scalar .text entry.1, .scalar .text entry.2)

namespace Reader

variable (ts : List Token) (anchors : List (String × Option Node))
  (handles : List (String × String))

/-- A key and its value, each a scalar, are read one after the other. -/
theorem flowEntries_key (fuel : Nat) (key value : String) :
    flowEntries true (fuel + 4)
        ⟨.key :: .scalar key false :: .value :: .scalar value false :: ts, anchors, handles⟩ =
      (do
        let (entries, r) ← flowEntries false (fuel + 3) ⟨ts, anchors, handles⟩
        return (entryNodes (key, value) :: entries, r)) := by
  rfl

/-- After a comma a mapping goes on as it begins. -/
theorem flowEntries_comma (fuel : Nat) :
    flowEntries false (fuel + 1) ⟨.flowEntry :: ts, anchors, handles⟩ =
      flowEntries true (fuel + 1) ⟨ts, anchors, handles⟩ := by
  cases ts with
  | nil => rfl
  | cons t ts => cases t <;> rfl

/-- A brace that opens begins a mapping. -/
theorem node_flowMappingStart (isBlock isValue : Bool) (fuel : Nat) :
    node isBlock isValue (fuel + 1) ⟨.flowMappingStart :: ts, anchors, handles⟩ =
      (do
        let (entries, r) ← flowEntries true fuel ⟨ts, anchors, handles⟩
        return (.mapping .mapping entries, r)) := by
  rfl

/-- A text that begins with a brace is one mapping. -/
theorem single_flowMappingStart :
    single ⟨.flowMappingStart :: ts, anchors, handles⟩ =
      (do
        let (root, r) ← node true false (4 * (Token.flowMappingStart :: ts).length + 8)
          ⟨.flowMappingStart :: ts, anchors, handles⟩
        let r := { r with tokens := r.tokens.dropWhile (· = Token.documentEnd) }
        if r.next = .streamEnd then return some root else r.refuse) := by
  rfl

theorem flowEntries_entryTokens (entries : List (String × String)) (fuel : Nat) :
    flowEntries true (fuel + 4 + entries.length)
        ⟨entries.flatMap entryTokens ++ .flowMappingEnd :: ts, anchors, handles⟩ =
      .ok (entries.map entryNodes, ⟨ts, anchors, handles⟩) := by
  induction entries with
  | nil => rfl
  | cons entry entries ih =>
    obtain ⟨key, value⟩ := entry
    have hmore : fuel + 4 + entries.length = fuel + entries.length + 3 + 1 := by omega
    rw [List.length_cons, ← Nat.add_assoc, hmore, List.flatMap_cons, List.append_assoc, entryTokens]
    simp only [List.cons_append, List.nil_append]
    rw [flowEntries_key, flowEntries_comma, ← hmore, ih]
    rfl

end Reader

theorem length_entryTokens (entries : List (String × String)) :
    (entries.flatMap entryTokens).length = 5 * entries.length := by
  induction entries with
  | nil => rfl
  | cons entry entries ih =>
    rw [List.flatMap_cons, List.length_append, ih, List.length_cons, Nat.mul_succ, Nat.add_comm]
    rfl

theorem document_textMapping {entries : List (String × String)}
    (hkeys : ∀ entry ∈ entries, (escapedText entry.1).length ≤ 1024) :
    document (textMapping entries) =
      .ok (some (.mapping .mapping (entries.map entryNodes))) := by
  have hfuel : 4 * (Token.flowMappingStart :: (entries.flatMap entryTokens ++
      [.flowMappingEnd, .streamEnd])).length + 8 =
      19 * entries.length + 15 + 4 + entries.length + 1 := by
    rw [List.length_cons, List.length_append, length_entryTokens, List.length_cons,
      List.length_singleton]
    omega
  rw [document, tokens_textMapping hkeys, Reader.single_flowMappingStart, hfuel,
    Reader.node_flowMappingStart, Reader.flowEntries_entryTokens]
  rfl

/-- The entries of a mapping of texts are texts. -/
theorem fields_entryNodes (entries : List (String × String)) :
    Node.fields (entries.map entryNodes) =
      .ok ([], entries.map fun (key, value) => (.text key, .text value)) := by
  induction entries with
  | nil => rfl
  | cons entry entries ih =>
    rw [List.map_cons, entryNodes, Node.fields, ih]
    rfl

/-! ### The value of a mapping -/

/-- The characters that a mapping of texts is written with. -/
def textChars : List Char :=
  "\x7b\x7d\":,\\U0123456789abcdef".toList

theorem hexDigit_mem_textChars : ∀ n < 16, Text.hexDigit n ∈ textChars := by
  decide

theorem mem_textChars_of_escapedText {text : String} {c : Char} (h : c ∈ escapedText text) :
    c ∈ textChars := by
  rw [escapedText, List.mem_cons, List.mem_append, List.mem_singleton, List.mem_flatMap] at h
  obtain rfl | ⟨x, -, hx⟩ | rfl := h
  · decide
  · rw [codeEscape, List.mem_cons, List.mem_cons] at hx
    obtain rfl | rfl | hdigit := hx
    · decide
    · decide
    · obtain ⟨digit, hlt, rfl⟩ := Text.exists_of_mem_hexDigits hdigit
      exact hexDigit_mem_textChars digit hlt
  · decide

theorem mem_textChars {entries : List (String × String)} {c : Char}
    (h : c ∈ textMapping entries) : c ∈ textChars := by
  have hentries : ∀ c ∈ textEntries entries, c ∈ textChars := by
    clear h
    induction entries with
    | nil => exact List.forall_mem_singleton.2 (by decide)
    | cons entry entries ih =>
      simp only [textEntries, List.forall_mem_append, List.forall_mem_cons]
      exact ⟨fun c => mem_textChars_of_escapedText, by decide,
        fun c => mem_textChars_of_escapedText, by decide, ih⟩
  rcases List.mem_cons.1 h with rfl | h
  · decide
  · exact hentries c h

/-- A mapping of texts has the value that is written, if no key is too long. -/
theorem parse_textMapping {entries : List (String × String)}
    (hkeys : ∀ entry ∈ entries, (escapedText entry.1).length ≤ 1024) :
    parse (String.ofList (textMapping entries)) =
      .ok (.map (ofPairs (entries.map fun (key, value) => (.text key, .text value)))) := by
  have hall : textChars.all isAllowed = true := by decide
  have hallowed : (textMapping entries).all isAllowed = true :=
    List.all_eq_true.2 fun c hc => List.all_eq_true.1 hall c (mem_textChars hc)
  have hvalue : Node.value (.mapping .mapping (entries.map entryNodes)) =
      .ok (.map (ofPairs (entries.map fun (key, value) => (.text key, .text value)))) := by
    rw [Node.value, fields_entryNodes]
    rfl
  simp [parse, hallowed, document_textMapping hkeys, hvalue, bind, Except.bind]

end CryptoAudit.Yaml
