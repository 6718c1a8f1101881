/-
# Ascending lists

A set of numbers as the list of its members in ascending order.
-/

namespace Walkthrough

/-- Puts a number in its place in an ascending list without repetitions. -/
def insertAscending (n : Int) : List Int → List Int
  | [] => [n]
  | m :: rest =>
    if n < m then n :: m :: rest else if n = m then m :: rest else m :: insertAscending n rest

/-- Numbers in ascending order, each once. -/
def ascending (ns : List Int) : List Int := ns.foldr insertAscending []

theorem mem_insertAscending {n x : Int} {ns : List Int} :
    x ∈ insertAscending n ns ↔ x = n ∨ x ∈ ns := by
  induction ns with
  | nil => simp [insertAscending]
  | cons m rest ih =>
    unfold insertAscending
    split
    · simp
    · split
      · next h => subst h; simp
      · simp only [List.mem_cons, ih]
        constructor <;> (rintro (h | h | h) <;> simp [h])

theorem mem_ascending {x : Int} {ns : List Int} : x ∈ ascending ns ↔ x ∈ ns := by
  induction ns with
  | nil => simp [ascending]
  | cons n rest ih =>
    rw [ascending, List.foldr_cons, mem_insertAscending]
    exact (or_congr_right ih).trans List.mem_cons.symm

theorem pairwise_insertAscending {n : Int} {ns : List Int} (h : ns.Pairwise (· < ·)) :
    (insertAscending n ns).Pairwise (· < ·) := by
  induction ns with
  | nil => simp [insertAscending]
  | cons m rest ih =>
    obtain ⟨hm, hr⟩ := List.pairwise_cons.1 h
    unfold insertAscending
    split
    · next hn =>
      refine List.pairwise_cons.2 ⟨fun x hx => ?_, h⟩
      rcases List.mem_cons.1 hx with rfl | hx
      · exact hn
      · have := hm x hx
        omega
    · split
      · exact h
      · refine List.pairwise_cons.2 ⟨fun x hx => ?_, ih hr⟩
        rcases mem_insertAscending.1 hx with rfl | hx
        · omega
        · exact hm x hx

/-- The members of an ascending list stand in order. -/
theorem pairwise_ascending (ns : List Int) : (ascending ns).Pairwise (· < ·) := by
  induction ns with
  | nil => simp [ascending]
  | cons n rest ih => exact pairwise_insertAscending ih

end Walkthrough
