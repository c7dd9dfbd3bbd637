import CryptoAudit.Proofs.Classification.Canonical
import CryptoAudit.Proofs.Command.Taxonomy
import CryptoAudit.Proofs.Text.Quoted

/-!
# Reports on names

A name on the command line is any text at all, so it may hold quotes and line breaks, and it may
look like the report on another name. A report starts with the name in quotes and ends with what
the name denotes. The quoted name says itself where it ends, and what follows it is made of fixed
words and canonical names, none of which holds a blank. So a report is one line of printable
characters, and both the name and what it denotes are read off it.

## Main definitions

* `verdict`: what a report says after the name

## Main results

* `verdict_injective`: what a name denotes is read off the report
* `nameLine_inj`: the name is read off the report too
* `reports_unforgeable`: reports are single lines that determine the names and what they denote
-/

namespace CryptoAudit

/-- In a text the first of a character tells what stands before it and after it. -/
theorem append_cons_inj {α : Type} {a : α} {xs ys zs ws : List α} (hxs : a ∉ xs) (hys : a ∉ ys)
    (h : xs ++ a :: zs = ys ++ a :: ws) : xs = ys ∧ zs = ws := by
  rcases List.append_eq_append_iff.1 h with ⟨more, rfl, hmore⟩ | ⟨more, rfl, hmore⟩
  · cases more with
    | nil => exact ⟨(List.append_nil xs).symm, (List.cons.inj hmore).2⟩
    | cons b more =>
      obtain ⟨rfl, -⟩ := List.cons.inj hmore
      exact absurd (List.mem_append_right xs List.mem_cons_self) hys
  · cases more with
    | nil => exact ⟨List.append_nil ys, (List.cons.inj hmore).2.symm⟩
    | cons b more =>
      obtain ⟨rfl, -⟩ := List.cons.inj hmore
      exact absurd (List.mem_append_right ys List.mem_cons_self) hxs

theorem Entry.blank_notMem_name (e : Entry) : ' ' ∉ e.name.toList := by
  intro h
  have hrange := toNat_of_isCanonicalChar (e.isCanonicalChar_of_mem ' ' h)
  revert hrange
  decide

theorem Category.blank_notMem_name (c : Category) : ' ' ∉ c.name.toList := by
  cases c <;> decide

theorem Value.boolText_injective {b b' : Bool} (h : boolText b = boolText b') : b = b' := by
  cases b <;> cases b' <;> first | rfl | exact absurd h (by decide)

namespace Command

open Log (Session)

/-! ### What a report says -/

/-- What a report says after the name. -/
def verdict (found : Option Entry) : String :=
  match found with
  | none => ": no match"
  | some e => ": category=" ++ e.category.name ++ " name=" ++ e.name ++ " weak=" ++
    Value.boolText e.isWeak

theorem nameLine_eq (r : Registry) (name : String) :
    nameLine r name = Text.quote name ++ verdict (r.classify name) := by
  rw [nameLine]
  cases r.classify name <;> rfl

theorem toList_verdict_some (e : Entry) :
    (verdict (some e)).toList = ": category=".toList ++ (e.category.name.toList ++
      ' ' :: ("name=".toList ++ (e.name.toList ++
        ' ' :: ("weak=".toList ++ (Value.boolText e.isWeak).toList)))) := by
  change (": category=" ++ e.category.name ++ " name=" ++ e.name ++ " weak=" ++
    Value.boolText e.isWeak).toList = _
  simp

theorem verdict_none_ne_some (e : Entry) : verdict none ≠ verdict (some e) := by
  intro h
  have hchars : ": no match".toList = (verdict (some e)).toList := congrArg String.toList h
  rw [toList_verdict_some] at hchars
  simp at hchars

/-- What a name denotes is read off the report. -/
theorem verdict_injective {found found' : Option Entry} (h : verdict found = verdict found') :
    found = found' := by
  cases found with
  | none =>
    cases found' with
    | none => rfl
    | some e' => exact absurd h (verdict_none_ne_some e')
  | some e =>
    cases found' with
    | none => exact absurd h.symm (verdict_none_ne_some e)
    | some e' =>
      -- Neither a category nor a canonical name holds a blank, so the fields come apart at blanks.
      have hchars := congrArg String.toList h
      rw [toList_verdict_some, toList_verdict_some] at hchars
      obtain ⟨hcategory, hrest⟩ := append_cons_inj e.category.blank_notMem_name
        e'.category.blank_notMem_name (List.append_cancel_left hchars)
      obtain ⟨hname, hrest⟩ := append_cons_inj e.blank_notMem_name e'.blank_notMem_name
        (List.append_cancel_left hrest)
      have hweak := List.append_cancel_left hrest
      rw [Option.some_inj, Entry.mk.injEq]
      exact ⟨Category.name_injective (String.toList_injective hcategory),
        String.toList_injective hname,
        Value.boolText_injective (String.toList_injective hweak)⟩

/-- Both the name and what it denotes are read off the report. -/
theorem nameLine_inj {r r' : Registry} {name name' : String}
    (h : nameLine r name = nameLine r' name') :
    name = name' ∧ r.classify name = r'.classify name' := by
  have hchars := congrArg String.toList h
  rw [nameLine_eq, nameLine_eq, String.toList_append, String.toList_append] at hchars
  obtain ⟨hname, hverdict⟩ := Text.quote_append_inj hchars
  exact ⟨hname, verdict_injective (String.toList_injective hverdict)⟩

theorem map_nameLine_inj {r r' : Registry} {names names' : List String}
    (h : names.map (nameLine r) = names'.map (nameLine r')) :
    names = names' ∧ names.map r.classify = names'.map r'.classify := by
  induction names generalizing names' with
  | nil =>
    rw [List.map_nil, eq_comm, List.map_eq_nil_iff] at h
    exact ⟨h.symm, by rw [h, List.map_nil, List.map_nil]⟩
  | cons name names ih =>
    cases names' with
    | nil => exact absurd h (List.cons_ne_nil _ _)
    | cons name' names' =>
      rw [List.map_cons, List.map_cons, List.cons.injEq] at h
      obtain ⟨rfl, hfound⟩ := nameLine_inj h.1
      obtain ⟨rfl, hfounds⟩ := ih h.2
      exact ⟨rfl, congrArg₂ List.cons hfound hfounds⟩

/-! ### Reports are single lines -/

theorem isPrintableText_name (e : Entry) : Text.IsPrintableText e.name := by
  intro c hc
  obtain ⟨hlow, hhigh⟩ := toNat_of_isCanonicalChar (e.isCanonicalChar_of_mem c hc)
  exact Text.isPrintable_of_between (by omega) (by omega)

/-- The fixed words and the canonical name of a report are printable. -/
theorem isPrintableText_verdict (found : Option Entry) : Text.IsPrintableText (verdict found) := by
  cases found with
  | none => exact Text.isPrintableText_of_all (by decide)
  | some e =>
    have hcategory : Text.IsPrintableText e.category.name :=
      Text.isPrintableText_of_all (by cases e.category <;> decide)
    have hweak : Text.IsPrintableText (Value.boolText e.isWeak) :=
      Text.isPrintableText_of_all (by cases e.isWeak <;> decide)
    refine .append (.append (.append (.append (.append ?_ hcategory) ?_)
      (isPrintableText_name e)) ?_) hweak
    all_goals exact Text.isPrintableText_of_all (by decide)

theorem isPrintableText_nameLine (r : Registry) (name : String) :
    Text.IsPrintableText (nameLine r name) := by
  rw [nameLine_eq]
  exact (Text.isPrintableText_quote name).append (isPrintableText_verdict _)

/-! ### Reports of a run -/

/-- With names on the command line, a run that has loaded its registry logs exactly one report for
each name, in the order of the names. Whatever the names are, each report is one line without
control characters, and the reports determine the names and what they denote: no other names give
the same reports, not even with another registry. -/
theorem reports_unforgeable (r : Registry) {names : List String} (hnames : names ≠ []) :
    (∀ (now : Moment) (env : Environment) (workbooks : WorkbookReader) (o : Options) (s t : State),
      o.names = names → (namesRegistry now env o).exec s = (.ok r, t) →
      (act now env workbooks o).exec s =
        (Action.deliver now (names.map (nameRecord r)) >>= fun _ => return 0).exec t) ∧
    (∀ record ∈ names.map (nameRecord r), ∀ c ∈ record.message.toList,
      Text.isPrintable c = true ∧ ¬ Text.IsLineControl c) ∧
    ∀ (r' : Registry) (names' : List String),
      names.map (nameLine r) = names'.map (nameLine r') →
      names = names' ∧ names.map r.classify = names'.map r'.classify := by
  refine ⟨?_, ?_, fun r' names' => map_nameLine_inj⟩
  · intro now env workbooks o s t ho hloaded
    subst ho
    rw [act_eq_report now env workbooks hnames, Action.exec_bind_ok hloaded, report_eq_deliver]
  · intro record hrecord c hc
    obtain ⟨name, -, rfl⟩ := List.mem_map.1 hrecord
    have hprintable := isPrintableText_nameLine r name c hc
    exact ⟨hprintable, Text.not_isLineControl hprintable⟩

/-- Names that imitate reports, break lines and hide what was written before. -/
def imitations : List String :=
  ["md5", "x': no match\n'md5", "\x1b\u2028'\"\\"]

/-- A command line with these names. -/
def imitatingOptions : Options :=
  { Options.usual with names := imitations }

/-- The time of a run with this command line. -/
def imitatingTime : Moment :=
  ⟨⟨2024, 1, 2⟩, 3, 4, 5, 0, none⟩

/-- Each of them is reported on one line, and no other names have these reports. -/
theorem reports_unforgeable_imitations :
    imitations ≠ [] ∧
      imitations.map (nameLine Registry.builtin) =
        ["'md5': category=Hashing name=MD5 weak=True", "\"x': no match\\n'md5\": no match",
          "'\\x1b\\u2028\\'\"\\\\': no match"] ∧
      (∃ t, (namesRegistry imitatingTime [] imitatingOptions).exec ⟨Session.start, ⟨[]⟩, ""⟩ =
          (.ok Registry.builtin, t) ∧
        (act imitatingTime [] .none imitatingOptions).exec ⟨Session.start, ⟨[]⟩, ""⟩ =
          (Action.deliver imitatingTime (imitations.map (nameRecord Registry.builtin)) >>=
            fun _ => return 0).exec t) ∧
      ∀ (r : Registry) (names : List String),
        imitations.map (nameLine Registry.builtin) = names.map (nameLine r) →
        imitations = names := by
  have hnames : imitations ≠ [] := List.cons_ne_nil _ _
  obtain ⟨hrun, -, hinj⟩ := reports_unforgeable Registry.builtin hnames
  refine ⟨hnames, by decide +kernel, ?_, fun r names h => (hinj r names h).1⟩
  have henv : (Environment.load ⟨[]⟩ [] (Path.ofText imitatingOptions.environmentFile)).outcome =
      .ok [] := eq_ok_of_toOption (by decide +kernel)
  have hnone : (Files.mk []).contains (Path.ofText imitatingOptions.config) = .ok false :=
    eq_ok_of_toOption (by decide +kernel)
  have hclassifies : Classifies imitatingTime ⟨[]⟩ [] .none imitatingOptions Registry.builtin :=
    classifies_of_no_settings henv hnone hnames
  cases hclassifies with
  | names given loaded reported whole => exact ⟨_, loaded, hrun _ _ _ _ _ _ rfl loaded⟩
  | table notGiven => exact absurd notGiven hnames

end Command

end CryptoAudit
