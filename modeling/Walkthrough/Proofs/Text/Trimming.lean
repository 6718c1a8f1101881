/-
# Trimming

Trimming takes away what stands at the ends: nothing from a text without blank characters (`strip_of_forall`),
all of a text exactly if it is blank (`isBlank_iff`), and otherwise what stands around a text that has its ends
outside the class (`trimWith_surrounded`).
-/

import Mathlib.Data.List.TakeWhile
import Walkthrough.Text.Blank

namespace Walkthrough
namespace Text

variable {p : Char → Bool} {cs before after : List Char}

/-- A list without characters of the class stays as it is. -/
theorem trimWith_of_forall (h : ∀ c ∈ cs, p c = false) : trimWith p cs = cs :=
  trimWith_eq_self (fun c hc => h c (List.mem_of_head? hc)) fun c hc => h c (List.mem_of_getLast? hc)

/-- A text without blank characters stays as it is. -/
theorem strip_of_forall {s : String} (h : ∀ c ∈ s.toList, isBlankChar c = false) : strip s = s := by
  unfold strip trim
  rw [trimWith_of_forall h, String.ofList_toList]

theorem toList_strip (s : String) : (strip s).toList = trim s.toList := String.toList_ofList

theorem trimWith_eq_nil_iff : trimWith p cs = [] ↔ ∀ c ∈ cs, p c = true := by
  unfold trimWith
  rw [List.reverse_eq_nil_iff, List.dropWhile_eq_nil_iff]
  simp only [List.mem_reverse]
  refine ⟨fun h => ?_, fun h c hc => h c ((List.dropWhile_suffix p).subset hc)⟩
  rw [← List.dropWhile_eq_nil_iff]
  cases hd : cs.dropWhile p with
  | nil => rfl
  | cons c rest =>
    have hc : p c = false := of_head?_dropWhile (by rw [hd]; rfl)
    rw [hd] at h
    rw [h c List.mem_cons_self] at hc
    cases hc

/-- **Blank texts** are those of which trimming leaves nothing. -/
theorem isBlank_iff {s : String} : isBlank s = true ↔ strip s = "" := by
  unfold isBlank strip trim
  rw [List.all_eq_true, ← trimWith_eq_nil_iff, ← String.toList_eq_nil_iff, String.toList_ofList]

theorem isEmpty_strip (s : String) : (strip s).isEmpty = isBlank s := by
  rw [Bool.eq_iff_iff, String.isEmpty_iff, isBlank_iff]

@[simp] theorem isBlank_strip (s : String) : isBlank (strip s) = isBlank s := by
  rw [← isEmpty_strip, strip_strip, isEmpty_strip]

/-! ## What stands around a text -/

/-- **What is trimmed** is a list between two of the class. -/
theorem exists_trimWith (p : Char → Bool) (cs : List Char) : ∃ before after,
    cs = before ++ (trimWith p cs ++ after) ∧ (∀ c ∈ before, p c = true) ∧ ∀ c ∈ after, p c = true := by
  refine ⟨cs.takeWhile p, ((cs.dropWhile p).reverse.takeWhile p).reverse, ?_, fun c => List.mem_takeWhile_imp,
    fun c hc => List.mem_takeWhile_imp (List.mem_reverse.1 hc)⟩
  rw [trimWith, ← List.reverse_append, List.takeWhile_append_dropWhile, List.reverse_reverse,
    List.takeWhile_append_dropWhile]

theorem trimWith_append_left (h : ∀ c ∈ before, p c = true) (cs : List Char) :
    trimWith p (before ++ cs) = trimWith p cs := by
  rw [trimWith, List.dropWhile_append_of_pos h, trimWith]

theorem trimWith_append_right (h : ∀ c ∈ after, p c = true) (cs : List Char) :
    trimWith p (cs ++ after) = trimWith p cs := by
  by_cases hcs : ∀ c ∈ cs, p c = true
  · rw [trimWith_eq_nil_iff.2 hcs, trimWith_eq_nil_iff]
    exact fun c hc => (List.mem_append.1 hc).elim (hcs c) (h c)
  · have hne : (cs.dropWhile p).isEmpty = false := by
      rw [List.isEmpty_eq_false_iff, ne_eq, List.dropWhile_eq_nil_iff]
      exact hcs
    rw [trimWith, List.dropWhile_append, hne, if_neg Bool.false_ne_true, List.reverse_append,
      List.dropWhile_append_of_pos fun c hc => h c (List.mem_reverse.1 hc), trimWith]

theorem mem_of_mem_trimWith {c : Char} (h : c ∈ trimWith p cs) : c ∈ cs := by
  obtain ⟨before, after, hcs, -, -⟩ := exists_trimWith p cs
  rw [hcs, List.mem_append, List.mem_append]
  exact .inr (.inl h)

/-- **Trimming takes away** what stands around a list that has its ends outside the class. -/
theorem trimWith_surrounded (hbefore : ∀ c ∈ before, p c = true) (hafter : ∀ c ∈ after, p c = true)
    (cs : List Char) : trimWith p (before ++ (cs ++ after)) = trimWith p cs := by
  rw [trimWith_append_left hbefore, trimWith_append_right hafter]

theorem trimWith_map {f : Char → Char} (cs : List Char) :
    trimWith p (cs.map f) = (trimWith (p ∘ f) cs).map f := by
  rw [trimWith, trimWith, List.dropWhile_map, ← List.map_reverse, List.dropWhile_map, List.map_reverse]

/-- Trimming a class of blanks takes away all that is blank at the ends if nothing blank is left. -/
theorem trim_eq_trimWith (hp : ∀ c ∈ cs, p c = true → isBlankChar c = true)
    (filled : ∀ c ∈ trimWith p cs, isBlankChar c = false) : trim cs = trimWith p cs := by
  obtain ⟨before, after, hcs, hbefore, hafter⟩ := exists_trimWith p cs
  generalize trimWith p cs = part at hcs filled ⊢
  subst hcs
  simp only [List.forall_mem_append] at hp
  rw [trim, trimWith_surrounded (fun c hc => hp.1 c hc (hbefore c hc))
    (fun c hc => hp.2.2 c hc (hafter c hc)), trimWith_of_forall filled]

end Text
end Walkthrough
