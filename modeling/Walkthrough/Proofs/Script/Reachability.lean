/-
# No step that a run can reach is called unreachable

`Script.reachable` collects the steps to which transitions lead from the first step, one step after the
other. Its invariant is `Script.Spread`: a step that was reached is still to be followed, or its next say
steps were reached. A step is put among those to be followed only when it is reached for the first time, so
the number of steps allowed to the search is enough, and in the end what was reached is closed under
transitions (`reachable_closed`).

A script without problems has a first step, and all its rules lead to steps (`closed_of_problems`).
-/

import Walkthrough.Proofs.Script.Sound
import Walkthrough.Proofs.Script.Transitions

namespace Walkthrough
namespace Script

variable {s : Script} {reached pending : List Int}

/-- A step that was reached is still to be followed, or its next say steps were reached. -/
def Spread (s : Script) (reached pending : List Int) : Prop :=
  ∀ x ∈ reached, x ∈ pending ∨ ∀ y ∈ s.nextSteps x, y ∈ reached

/-- How many steps of the script were not reached. -/
def unreached (s : Script) (reached : List Int) : Nat :=
  (s.stepList.filter fun t => !reached.contains t.id).length

theorem unreached_le_size (reached : List Int) : s.unreached reached ≤ s.steps.size := by
  have h := List.length_filter_le (fun t : Step => !reached.contains t.id) s.stepList
  rwa [stepList, OrderedMap.values, List.length_map] at h

/-- Reaching one more step. -/
theorem WellFormed.unreached_concat (w : s.WellFormed) {id : Int} (shows : s.Shows id) (new : id ∉ reached) :
    s.unreached (reached ++ [id]) + 1 ≤ s.unreached reached := by
  obtain ⟨t, ht, -⟩ := shows
  have hid := w.keyed ht
  have h := add_length_flatMap_filter_le (p := fun t : Step => !reached.contains t.id)
    (q := fun t : Step => !(reached ++ [id]).contains t.id) (f := fun t => [t]) (fun u hu => by
      simp only [List.contains_append, Bool.not_or, Bool.and_eq_true] at hu
      exact hu.1) (mem_stepList.2 ⟨id, ht⟩) (by simpa [hid] using new) (by simp [hid])
  rw [List.flatMap_singleton', List.flatMap_singleton', List.length_singleton, Nat.add_comm] at h
  exact h

/-- **What a step leads to is added**: it is reached then, what is new is still to be followed, and no step
is put among those to be followed twice. -/
theorem WellFormed.spread_adds (w : s.WellFormed) {next : List Int} (shows : ∀ y ∈ next, s.Shows y) :
    ∀ reached pending : List Int, ∃ new,
      (spread next (reached, pending)).1 = reached ++ new ∧
        (∀ x, x ∈ (spread next (reached, pending)).2 ↔ x ∈ new ∨ x ∈ pending) ∧
        (∀ y ∈ next, y ∈ reached ++ new) ∧
        (spread next (reached, pending)).2.length + s.unreached (reached ++ new) ≤
          pending.length + s.unreached reached := by
  induction next with
  | nil => exact fun _ _ => ⟨[], by simp [spread], by simp [spread], by simp, by simp [spread]⟩
  | cons y rest ih =>
    intro reached pending
    have hrest := fun z hz => shows z (List.mem_cons_of_mem y hz)
    by_cases hy : y ∈ reached
    · have heq : spread (y :: rest) (reached, pending) = spread rest (reached, pending) := by
        simp [spread, hy]
      obtain ⟨new, hreached, hpending, hnext, hle⟩ := ih hrest reached pending
      rw [heq]
      exact ⟨new, hreached, hpending, List.forall_mem_cons.2 ⟨List.mem_append_left _ hy, hnext⟩, hle⟩
    · have heq : spread (y :: rest) (reached, pending) = spread rest (reached ++ [y], y :: pending) := by
        simp [spread, hy]
      obtain ⟨new, hreached, hpending, hnext, hle⟩ := ih hrest (reached ++ [y]) (y :: pending)
      have hone := w.unreached_concat (shows y List.mem_cons_self) hy
      rw [List.append_assoc, List.singleton_append] at hreached hnext hle
      rw [heq]
      refine ⟨y :: new, hreached, fun x => ?_, List.forall_mem_cons.2 ⟨by simp, hnext⟩, ?_⟩
      · rw [hpending, List.mem_cons, List.mem_cons]
        tauto
      · rw [List.length_cons] at hle
        omega

/-- **The search spreads everything.** The induction is on the number of steps left. -/
theorem WellFormed.reach_spreads (w : s.WellFormed) :
    ∀ (fuel : Nat) (reached pending : List Int), pending.length + s.unreached reached ≤ fuel →
      s.Spread reached pending →
        reached ⊆ s.reach fuel (reached, pending) ∧ s.Spread (s.reach fuel (reached, pending)) [] := by
  intro fuel
  induction fuel with
  | zero =>
    intro reached pending hfuel h
    obtain rfl : pending = [] := List.length_eq_zero_iff.1 (by omega)
    exact ⟨List.Subset.refl _, h⟩
  | succ fuel ih =>
    intro reached pending hfuel h
    cases pending with
    | nil => exact ⟨List.Subset.refl _, h⟩
    | cons id pending =>
      have hshows : ∀ y ∈ s.nextSteps id, s.Shows y := fun y hy => shows_of_mem_nextSteps hy
      obtain ⟨new, hreached, hpending, hnext, hle⟩ := w.spread_adds hshows reached pending
      rw [List.length_cons] at hfuel
      have hspread : s.Spread (reached ++ new) (spread (s.nextSteps id) (reached, pending)).2 := by
        intro x hx
        rw [hpending]
        rcases List.mem_append.1 hx with hx | hx
        · rcases h x hx with hx | hx
          · rcases List.mem_cons.1 hx with rfl | hx
            · exact .inr hnext
            · exact .inl (.inr hx)
          · exact .inr fun y hy => List.mem_append_left _ (hx y hy)
        · exact .inl (.inl hx)
      obtain ⟨hsub, hclosed⟩ := ih (reached ++ new) (spread (s.nextSteps id) (reached, pending)).2
        (by omega) hspread
      have heq : s.reach (fuel + 1) (reached, id :: pending) =
          s.reach fuel (reached ++ new, (spread (s.nextSteps id) (reached, pending)).2) := by
        rw [reach, ← hreached]
      rw [heq]
      exact ⟨List.Subset.trans (List.subset_append_left _ _) hsub, hclosed⟩

/-- **What is reachable** from a step contains the step and is closed under transitions. -/
theorem WellFormed.reachable_closed (w : s.WellFormed) (first : Int) : first ∈ s.reachable first ∧
    ∀ x ∈ s.reachable first, ∀ y ∈ s.nextSteps x, y ∈ s.reachable first := by
  have hfuel : [first].length + s.unreached [first] ≤ s.steps.size + 2 := by
    have := s.unreached_le_size [first]
    rw [List.length_singleton]
    omega
  obtain ⟨hsub, hclosed⟩ := w.reach_spreads (s.steps.size + 2) [first] [first] hfuel fun x hx => .inl hx
  exact ⟨hsub List.mem_cons_self, fun x hx => (hclosed x hx).resolve_left List.not_mem_nil⟩

/-- A step leads to itself, or to one of its next say steps. -/
theorem WellFormed.eq_or_mem_nextSteps_of_leads (w : s.WellFormed) {first goal : Int}
    (h : s.Leads first goal) : goal = first ∨ goal ∈ s.nextSteps first := by
  cases h with
  | say => exact .inl rfl
  | call _ _ rule rest => exact .inr (w.mem_nextSteps_of_leads rule rest)

/-! ## Problems -/

/-- A script whose first step and whose targets are steps. -/
structure Closed (s : Script) : Prop where
  first : ∃ first, s.first = some first ∧ s.hasStep first = true
  target : ∀ {id x}, s.step? id = some x → ∀ target ∈ x.rules.map Rule.target, s.hasStep target = true

theorem Closed.of_freeze_eq {t : Script} (h : s.Closed) (heq : t.freeze = s.freeze) : t.Closed := by
  have hclosed : t.freeze.Closed = s.freeze.Closed := congrArg Closed heq
  have hs : s.freeze.Closed := ⟨h.first, h.target⟩
  have ht : t.freeze.Closed := hclosed ▸ hs
  exact ⟨ht.first, ht.target⟩

/-- **A script without problems is closed.** -/
theorem Sound.closed_of_problems (sound : s.Sound) (h : s.problems = []) : s.Closed := by
  obtain ⟨first, hfirst, hbroken⟩ : ∃ first, s.first = some first ∧ s.brokenRules = [] := by
    unfold problems at h
    split at h
    · cases h
    · next first hfirst => exact ⟨first, hfirst, (List.append_eq_nil_iff.1 h).1⟩
  refine ⟨⟨first, hfirst, sound.first hfirst⟩, fun {id x} hx target htarget => ?_⟩
  obtain ⟨r, hr, rfl⟩ := List.mem_map.1 htarget
  have hnone := List.flatMap_eq_nil_iff.1 hbroken x (mem_stepList.2 ⟨id, hx⟩)
  simpa using List.filter_eq_nil_iff.1 (List.map_eq_nil_iff.1 hnone) r hr

/-- What a step that is called unreachable is. -/
theorem unreachable_of_mem_problems {id : Int} (h : .unreachable id ∈ s.problems) :
    ∃ first, s.first = some first ∧ id ∉ s.reachable first := by
  have broken : Problem.unreachable id ∉ s.brokenRules := fun h => by
    obtain ⟨t, -, ht⟩ := List.mem_flatMap.1 h
    obtain ⟨r, -, hr⟩ := List.mem_map.1 ht
    cases hr
  unfold problems at h
  split at h
  · exact absurd ((List.mem_cons.1 h).resolve_left nofun) broken
  · next first hfirst =>
    obtain ⟨t, ht, hid⟩ := List.mem_map.1 ((List.mem_append.1 h).resolve_left broken)
    cases hid
    have hlost := (List.mem_filter.1 ht).2
    exact ⟨first, hfirst, by simpa using (Bool.and_eq_true_iff.1 hlost).2⟩

end Script
end Walkthrough
