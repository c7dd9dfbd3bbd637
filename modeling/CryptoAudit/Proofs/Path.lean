import CryptoAudit.Path

/-!
# Paths and their texts

Reading a text gives a path whose parts are names: none of them is empty, a single dot or has a
slash. Such a path is written as a text that denotes it again.

## Main definitions

* `Path.IsProper`: every part of a path is a name

## Main results

* `Path.isProper_ofText`: paths that are read are proper
* `Path.ofText_text`: a proper path is read back from its text
-/

namespace CryptoAudit.Path

/-- Every part is a name: it is not empty, not a single dot, and has no slash. -/
def IsProper (p : Path) : Prop :=
  ∀ part ∈ p.parts, part.toList ≠ [] ∧ part.toList ≠ ['.'] ∧ '/' ∉ part.toList

theorem splitSlashes_eq_splitOn (cs : List Char) : splitSlashes cs = cs.splitOn '/' := by
  induction cs with
  | nil => rfl
  | cons c cs ih =>
    rw [List.splitOn_cons_eq_if_modifyHead, ← ih]
    by_cases hc : c = '/'
    · simp [splitSlashes, hc]
    · have hne : splitSlashes cs ≠ [] := ih ▸ List.splitOn_ne_nil '/' cs
      obtain ⟨piece, pieces, hpieces⟩ := List.exists_cons_of_ne_nil hne
      simp [splitSlashes, hc, hpieces]

theorem notMem_of_mem_splitSlashes {cs piece : List Char} (h : piece ∈ splitSlashes cs) :
    '/' ∉ piece := by
  fun_induction splitSlashes cs generalizing piece with
  | case1 =>
    obtain rfl := List.mem_singleton.1 h
    exact List.not_mem_nil
  | case2 cs ih =>
    rcases List.mem_cons.1 h with rfl | h
    · exact List.not_mem_nil
    · exact ih h
  | case3 c cs hc hnil ih =>
    obtain rfl := List.mem_singleton.1 h
    simpa using fun hslash : '/' = c => hc hslash.symm
  | case4 c cs hc first pieces hsplit ih =>
    rcases List.mem_cons.1 h with rfl | h
    · have hfirst : '/' ∉ first := ih (hsplit ▸ List.mem_cons_self)
      simpa [hfirst] using fun hslash : '/' = c => hc hslash.symm
    · exact ih (hsplit ▸ List.mem_cons_of_mem _ h)

theorem isProper_ofText (s : String) : (ofText s).IsProper := by
  intro part hpart
  obtain ⟨piece, hpiece, rfl⟩ := List.mem_map.1 hpart
  obtain ⟨hsplit, hkept⟩ := List.mem_filter.1 hpiece
  rw [String.toList_ofList]
  refine ⟨?_, ?_, notMem_of_mem_splitSlashes hsplit⟩
  · rintro rfl
    simp at hkept
  · rintro rfl
    simp at hkept

/-- The number of slashes that a root is written with. -/
def slashes : Root → Nat
  | .relative => 0
  | .slash => 1
  | .doubleSlash => 2

theorem rootOf_slashes (root : Root) : rootOf (slashes root) = root := by
  cases root <;> rfl

theorem toList_rootText (root : Root) :
    (rootText root).toList = List.replicate (slashes root) '/' := by
  cases root <;> rfl

theorem splitSlashes_slashes (n : Nat) (cs : List Char) :
    splitSlashes (List.replicate n '/' ++ cs) = List.replicate n [] ++ splitSlashes cs := by
  induction n with
  | zero => rfl
  | succ n ih => simp [List.replicate_succ, splitSlashes, ih]

variable {p : Path} (h : p.IsProper)

include h

/-- What comes after the root starts with no slash. -/
theorem takeWhile_parts :
    (['/'].intercalate (p.parts.map String.toList)).takeWhile (· = '/') = [] := by
  cases hparts : p.parts with
  | nil => rfl
  | cons part parts =>
    obtain ⟨hne, -, hslash⟩ := h part (hparts ▸ List.mem_cons_self)
    obtain ⟨c, cs, hchars⟩ := List.exists_cons_of_ne_nil hne
    rw [hchars] at hslash
    have hc : c ≠ '/' := fun heq => hslash (heq ▸ List.mem_cons_self)
    cases parts <;> simp [hchars, hc]

theorem filter_splitSlashes_parts :
    (splitSlashes (['/'].intercalate (p.parts.map String.toList))).filter
      (fun piece => !piece.isEmpty && piece != ['.']) = p.parts.map String.toList := by
  by_cases hparts : p.parts = []
  · rw [hparts]
    rfl
  · rw [splitSlashes_eq_splitOn, List.splitOn_intercalate '/' ?noSlash (by simpa using hparts)]
    case noSlash =>
      intro cs hcs
      obtain ⟨part, hpart, rfl⟩ := List.mem_map.1 hcs
      exact (h part hpart).2.2
    refine List.filter_eq_self.2 fun cs hcs => ?_
    obtain ⟨part, hpart, rfl⟩ := List.mem_map.1 hcs
    obtain ⟨hne, hdot, -⟩ := h part hpart
    simp [hne, hdot]

/-- A proper path is read back from its text. -/
theorem ofText_text : ofText p.text = p := by
  by_cases hdot : p.root = .relative ∧ p.parts = []
  · obtain ⟨root, parts⟩ := p
    obtain ⟨rfl, rfl⟩ := hdot
    decide
  · have htext : p.text.toList =
        List.replicate (slashes p.root) '/' ++ ['/'].intercalate (p.parts.map String.toList) := by
      have hnotDot : (decide (p.root = .relative) && p.parts.isEmpty) = false := by
        simpa using hdot
      rw [text, hnotDot, if_neg Bool.false_ne_true, String.toList_append, toList_rootText,
        String.toList_intercalate]
      rfl
    have hroot : (p.text.toList.takeWhile (· = '/')).length = slashes p.root := by
      rw [htext, List.takeWhile_append_of_pos (by simp), takeWhile_parts h]
      simp
    have hparts : (splitSlashes p.text.toList).filter
        (fun piece => !piece.isEmpty && piece != ['.']) = p.parts.map String.toList := by
      rw [htext, splitSlashes_slashes, List.filter_append, filter_splitSlashes_parts h]
      simp
    simp only [ofText, hroot, hparts, rootOf_slashes, List.map_map, Function.comp_def,
      String.ofList_toList, List.map_id']

end CryptoAudit.Path
