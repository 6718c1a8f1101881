/-
# Splitting at a character

The parts between the occurrences of a character hold it no more, and joined by it they give the text again
(`splitOnChar_eq`). So there are two parts exactly if the character occurs once (`splitOnChar_eq_pair_iff`), and
other characters can be dropped before the text is split or afterwards (`splitOnChar_filter`). Splitting only once
is splitting at the first occurrence (`splitAt?_singleton_iff`).
-/

import Mathlib.Data.List.Basic
import Walkthrough.Proofs.Text.Search

namespace Walkthrough
namespace Text

variable {sep : Char} {cs before after part : List Char} {p : Char → Bool}

theorem splitOnChar_ne_nil : splitOnChar sep cs ≠ [] := by
  cases cs with
  | nil => exact List.cons_ne_nil _ _
  | cons c cs =>
    unfold splitOnChar
    split
    · exact List.cons_ne_nil _ _
    · split <;> exact List.cons_ne_nil _ _

/-- A character that does not separate goes to the first part. -/
theorem splitOnChar_cons (c : Char) (cs : List Char) : splitOnChar sep (c :: cs) =
    if c = sep then [] :: splitOnChar sep cs else (splitOnChar sep cs).modifyHead (c :: ·) := by
  rw [splitOnChar]
  split
  · rfl
  · obtain ⟨part, parts, hparts⟩ := List.exists_cons_of_ne_nil (splitOnChar_ne_nil : splitOnChar sep cs ≠ [])
    rw [hparts]
    rfl

theorem splitOnChar_eq (sep : Char) (cs : List Char) : splitOnChar sep cs = cs.splitOn sep := by
  induction cs with
  | nil => rw [List.splitOn_nil, splitOnChar]
  | cons c cs ih => rw [splitOnChar_cons, List.splitOn_cons_eq_if_modifyHead, ih]; simp only [beq_iff_eq]

theorem not_mem_of_mem_splitOnChar (h : part ∈ splitOnChar sep cs) : sep ∉ part := by
  induction cs generalizing part with
  | nil =>
    rw [splitOnChar, List.mem_singleton] at h
    exact h ▸ List.not_mem_nil
  | cons c cs ih =>
    rw [splitOnChar_cons] at h
    split at h
    · rcases List.mem_cons.1 h with rfl | h
      · exact List.not_mem_nil
      · exact ih h
    · next hne =>
      obtain ⟨first, parts, hparts⟩ := List.exists_cons_of_ne_nil (splitOnChar_ne_nil : splitOnChar sep cs ≠ [])
      rw [hparts, List.modifyHead_cons] at h
      rw [hparts] at ih
      rcases List.mem_cons.1 h with rfl | h
      · rw [List.mem_cons, not_or]
        exact ⟨Ne.symm hne, ih List.mem_cons_self⟩
      · exact ih (List.mem_cons_of_mem _ h)

/-- **There are two parts** exactly if the character occurs once. -/
theorem splitOnChar_eq_pair_iff :
    splitOnChar sep cs = [before, after] ↔ cs = before ++ sep :: after ∧ sep ∉ before ∧ sep ∉ after := by
  constructor
  · intro h
    have hjoined : cs = [sep].intercalate (splitOnChar sep cs) := by
      rw [splitOnChar_eq, List.intercalate_splitOn]
    rw [h] at hjoined
    have hmem : ∀ part ∈ [before, after], sep ∉ part := fun part hpart => not_mem_of_mem_splitOnChar (h ▸ hpart)
    exact ⟨by simpa using hjoined, hmem _ (by simp), hmem _ (by simp)⟩
  · rintro ⟨rfl, hbefore, hafter⟩
    have hpair : List.splitOn sep ([sep].intercalate [before, after]) = [before, after] :=
      List.splitOn_intercalate sep (by simp [hbefore, hafter]) (by simp)
    rw [splitOnChar_eq, ← hpair]
    simp

/-- **Other characters** can be dropped before or after. -/
theorem splitOnChar_filter (h : p sep = true) (cs : List Char) :
    splitOnChar sep (cs.filter p) = (splitOnChar sep cs).map (List.filter p) := by
  induction cs with
  | nil => rfl
  | cons c cs ih =>
    rw [splitOnChar_cons]
    by_cases hc : c = sep
    · rw [if_pos hc, List.filter_cons, if_pos (hc ▸ h), splitOnChar_cons, if_pos hc, ih, List.map_cons,
        List.filter_nil]
    · rw [if_neg hc]
      obtain ⟨part, parts, hparts⟩ := List.exists_cons_of_ne_nil (splitOnChar_ne_nil : splitOnChar sep cs ≠ [])
      rw [hparts, List.map_cons] at ih
      rw [hparts, List.modifyHead_cons, List.map_cons, List.filter_cons, List.filter_cons]
      split
      · rw [splitOnChar_cons, if_neg hc, ih, List.modifyHead_cons]
      · rw [ih]

/-- A text is split at a character where it stands first. -/
theorem splitAt?_singleton_iff :
    splitAt? [sep] cs = some (before, after) ↔ cs = before ++ sep :: after ∧ sep ∉ before := by
  rw [splitAt?_eq_some_iff]
  refine and_congr_right fun hcs => ?_
  rw [List.singleton_append] at hcs
  subst hcs
  have hstands : ∀ k < before.length, StandsAt [sep] (before ++ sep :: after) k ↔ before[k]? = some sep := by
    intro k hk
    rw [StandsAt, List.drop_append_of_le_length (Nat.le_of_lt hk), List.drop_eq_getElem_cons hk, List.cons_append,
      List.cons_prefix_cons, List.getElem?_eq_getElem hk, Option.some.injEq, and_iff_left List.nil_prefix, eq_comm]
  constructor
  · intro h hmem
    obtain ⟨k, hk, hsep⟩ := List.mem_iff_getElem.1 hmem
    exact h k hk ((hstands k hk).2 (by rw [List.getElem?_eq_getElem hk, hsep]))
  · intro h k hk hsep
    exact h (List.mem_of_getElem? ((hstands k hk).1 hsep))

end Text
end Walkthrough
