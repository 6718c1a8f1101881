/-
# The search for the next say steps misses none

`Script.Leads` says which say steps a target leads to, call steps being passed through, without saying
how they are searched for. `Script.nextSteps` searches them with a list of targets that are still to be
followed. Its invariant is `Script.Settled`: whatever a call step that was passed through points to is
found, passed through, or still to be followed (`follow_settles`). Every call step is expanded once, so
the number of steps allowed to the search is enough, and in the end everything is settled: the search
finds every say step that a rule leads to (`mem_nextSteps_of_leads`), and nothing but say steps
(`shows_of_mem_nextSteps`).
-/

import Mathlib.Data.List.Basic
import Mathlib.Data.List.Flatten
import Walkthrough.Proofs.Script.Built
import Walkthrough.Script.Graph

namespace Walkthrough
namespace Script

variable {s : Script}

/-- The say steps that a target leads to: itself, or what a target of a call step leads to. -/
inductive Leads (s : Script) : Int → Int → Prop where
  | say {id : Int} {t : Step} (h : s.step? id = some t) (say : t.isSay = true) : Leads s id id
  | call {id next goal : Int} {t : Step} (h : s.step? id = some t) (call : t.isSay = false)
      (rule : next ∈ s.targets id) (rest : Leads s next goal) : Leads s id goal

/-- A target needs no more following: a say step that is found, a call step that was passed through, or
no step at all. -/
def Settled (s : Script) (passed found : List Int) (id : Int) : Prop :=
  ∀ t, s.step? id = some t → (t.isSay = true → id ∈ found) ∧ (t.isSay = false → id ∈ passed)

theorem Settled.mono {passed passed' found found' : List Int} {id : Int}
    (h : s.Settled passed found id) (hp : passed ⊆ passed') (hf : found ⊆ found') :
    s.Settled passed' found' id :=
  fun t ht => ⟨fun hs => hf ((h t ht).1 hs), fun hc => hp ((h t ht).2 hc)⟩

theorem settled_of_found {passed found : List Int} {id : Int} {t : Step} (h : s.step? id = some t)
    (say : t.isSay = true) (hf : id ∈ found) : s.Settled passed found id := by
  intro u hu
  obtain rfl : t = u := Option.some.inj (h.symm.trans hu)
  exact ⟨fun _ => hf, fun call => absurd (say.symm.trans call) Bool.noConfusion⟩

theorem settled_of_passed {passed found : List Int} {id : Int} {t : Step} (h : s.step? id = some t)
    (call : t.isSay = false) (hp : id ∈ passed) : s.Settled passed found id := by
  intro u hu
  obtain rfl : t = u := Option.some.inj (h.symm.trans hu)
  exact ⟨fun say => absurd (call.symm.trans say) Bool.noConfusion, fun _ => hp⟩

/-! ## How many targets are followed -/

theorem length_flatMap_filter_le {α β : Type} {p q : α → Bool} {f : α → List β}
    (hqp : ∀ x, q x = true → p x = true) (l : List α) :
    ((l.filter q).flatMap f).length ≤ ((l.filter p).flatMap f).length :=
  ((List.monotone_filter_right l hqp).flatMap f).length_le

/-- Leaving a member out makes what is gathered shorter by what it gives. -/
theorem add_length_flatMap_filter_le {α β : Type} {p q : α → Bool} {f : α → List β}
    (hqp : ∀ x, q x = true → p x = true) {l : List α} {x : α} (hx : x ∈ l) (hp : p x = true)
    (hq : q x = false) :
    (f x).length + ((l.filter q).flatMap f).length ≤ ((l.filter p).flatMap f).length := by
  obtain ⟨front, back, rfl⟩ := List.append_of_mem hx
  have hfront := length_flatMap_filter_le (f := f) hqp front
  have hback := length_flatMap_filter_le (f := f) hqp back
  rw [List.filter_append, List.filter_append, List.filter_cons_of_neg (by simp [hq]),
    List.filter_cons_of_pos hp]
  simp only [List.flatMap_append, List.flatMap_cons, List.length_append]
  omega

/-- The number of rules of the call steps that were not passed through. -/
def openRules (s : Script) (passed : List Int) : Nat :=
  ((s.stepList.filter fun t => !t.isSay && !passed.contains t.id).flatMap Step.rules).length

theorem length_targets {id : Int} {t : Step} (h : s.step? id = some t) :
    (s.targets id).length = t.rules.length := by
  simp [targets, h]

theorem openRules_le_ruleCount (passed : List Int) : s.openRules passed ≤ s.ruleCount := by
  have h := length_flatMap_filter_le (p := fun _ => true) (f := Step.rules)
    (q := fun t => !t.isSay && !passed.contains t.id) (fun _ _ => rfl) s.stepList
  rwa [List.filter_true] at h

theorem length_targets_le_ruleCount (id : Int) : (s.targets id).length ≤ s.ruleCount := by
  cases h : s.step? id with
  | none => simp [targets, h]
  | some t =>
    have hle := add_length_flatMap_filter_le (p := fun _ => true) (q := fun _ => false)
      (f := Step.rules) (fun _ _ => rfl) (mem_stepList.2 ⟨id, h⟩) rfl rfl
    rw [List.filter_true] at hle
    rw [length_targets h]
    exact Nat.le_trans (Nat.le_add_right _ _) hle

theorem WellFormed.openRules_cons (w : s.WellFormed) {id : Int} {t : Step} {passed : List Int}
    (h : s.step? id = some t) (call : t.isSay = false) (fresh : id ∉ passed) :
    (s.targets id).length + s.openRules (id :: passed) ≤ s.openRules passed := by
  rw [length_targets h]
  have hid := w.keyed h
  refine add_length_flatMap_filter_le (f := Step.rules) (fun u hu => ?_) (mem_stepList.2 ⟨id, h⟩) ?_ ?_
  · simp only [Bool.and_eq_true, Bool.not_eq_true', List.contains_cons, Bool.or_eq_false_iff] at hu ⊢
    exact ⟨hu.1, hu.2.2⟩
  · simpa [call, hid] using fresh
  · simp [hid]

/-! ## The search -/

/-- **The search settles everything.** Targets to be followed are settled in the end, and so is all that
a call step points to which was passed through. The induction is on the number of steps left. -/
theorem WellFormed.follow_settles (w : s.WellFormed) :
    ∀ (fuel : Nat) (work passed found : List Int), work.length + s.openRules passed ≤ fuel →
      (∀ p ∈ passed, ∀ b ∈ s.targets p, b ∈ work ∨ s.Settled passed found b) →
        ∃ passed', passed ⊆ passed' ∧ found ⊆ s.follow fuel work passed found ∧
          (∀ b ∈ work, s.Settled passed' (s.follow fuel work passed found) b) ∧
          ∀ p ∈ passed', ∀ b ∈ s.targets p, s.Settled passed' (s.follow fuel work passed found) b := by
  intro fuel
  induction fuel with
  | zero =>
    intro work passed found hfuel hinv
    obtain rfl : work = [] := List.length_eq_zero_iff.1 (by omega)
    exact ⟨passed, List.Subset.refl _, List.Subset.refl _, by simp,
      fun p hp b hb => (hinv p hp b hb).resolve_left List.not_mem_nil⟩
  | succ fuel ih =>
    intro work passed found hfuel hinv
    cases work with
    | nil =>
      exact ⟨passed, List.Subset.refl _, List.Subset.refl _, by simp,
        fun p hp b hb => (hinv p hp b hb).resolve_left List.not_mem_nil⟩
    | cons target rest =>
      rw [List.length_cons] at hfuel
      -- In three of the four cases the target is dropped, because it is settled already.
      have drop : ∀ found', found ⊆ found' → s.Settled passed found' target →
          s.follow (fuel + 1) (target :: rest) passed found = s.follow fuel rest passed found' →
          ∃ passed', passed ⊆ passed' ∧ found ⊆ s.follow (fuel + 1) (target :: rest) passed found ∧
            (∀ b ∈ target :: rest,
              s.Settled passed' (s.follow (fuel + 1) (target :: rest) passed found) b) ∧
            ∀ p ∈ passed', ∀ b ∈ s.targets p,
              s.Settled passed' (s.follow (fuel + 1) (target :: rest) passed found) b := by
        intro found' hsub htarget heq
        rw [heq]
        obtain ⟨passed', hp, hf, hw, hc⟩ := ih rest passed found' (by omega) fun p hp b hb => by
          rcases hinv p hp b hb with hb | hb
          · rcases List.mem_cons.1 hb with rfl | hb
            · exact .inr htarget
            · exact .inl hb
          · exact .inr (hb.mono (List.Subset.refl _) hsub)
        refine ⟨passed', hp, List.Subset.trans hsub hf, fun b hb => ?_, hc⟩
        rcases List.mem_cons.1 hb with rfl | hb
        · exact htarget.mono hp hf
        · exact hw b hb
      cases ht : s.step? target with
      | none =>
        exact drop found (List.Subset.refl _) (fun t h => by rw [ht] at h; cases h)
          (by simp only [follow, ht])
      | some t =>
        cases hsay : t.isSay with
        | true =>
          have hmem : target ∈ if found.contains target then found else found ++ [target] := by
            split
            · next h => exact List.contains_iff_mem.1 h
            · simp
          refine drop (if found.contains target then found else found ++ [target]) ?_
            (settled_of_found ht hsay hmem) (by simp only [follow, ht, hsay, if_true])
          split
          · exact List.Subset.refl _
          · exact List.subset_append_left _ _
        | false =>
          by_cases hpassed : target ∈ passed
          · exact drop found (List.Subset.refl _) (settled_of_passed ht hsay hpassed)
              (by simp [follow, ht, hsay, hpassed])
          · -- A call step that is met for the first time: its targets are followed next.
            have heq : s.follow (fuel + 1) (target :: rest) passed found =
                s.follow fuel (s.targets target ++ rest) (target :: passed) found := by
              simp [follow, ht, hsay, hpassed]
            have hopen := w.openRules_cons ht hsay hpassed
            have hself : s.Settled (target :: passed) found target :=
              settled_of_passed ht hsay List.mem_cons_self
            rw [heq]
            obtain ⟨passed', hp, hf, hw, hc⟩ := ih (s.targets target ++ rest) (target :: passed) found
              (by rw [List.length_append]; omega) fun p hp b hb => by
                rcases List.mem_cons.1 hp with rfl | hp
                · exact .inl (List.mem_append_left _ hb)
                · rcases hinv p hp b hb with hb | hb
                  · rcases List.mem_cons.1 hb with rfl | hb
                    · exact .inr hself
                    · exact .inl (List.mem_append_right _ hb)
                  · exact .inr (hb.mono (List.subset_cons_self _ _) (List.Subset.refl _))
            refine ⟨passed', List.Subset.trans (List.subset_cons_self _ _) hp, hf, fun b hb => ?_, hc⟩
            rcases List.mem_cons.1 hb with rfl | hb
            · exact hself.mono hp hf
            · exact hw b (List.mem_append_right _ hb)

/-- **No next say step is missed.** -/
theorem WellFormed.mem_nextSteps_of_leads (w : s.WellFormed) {id next goal : Int}
    (rule : next ∈ s.targets id) (leads : s.Leads next goal) : goal ∈ s.nextSteps id := by
  obtain ⟨passed, -, -, hwork, hclosed⟩ := w.follow_settles (2 * s.ruleCount + 1) (s.targets id) [] []
    (by
      have := length_targets_le_ruleCount (s := s) id
      have := openRules_le_ruleCount (s := s) []
      omega)
    (by simp)
  have found : ∀ {b g : Int}, s.Leads b g → s.Settled passed (s.nextSteps id) b →
      g ∈ s.nextSteps id := by
    intro b g h
    induction h with
    | say ht hsay => exact fun hb => (hb _ ht).1 hsay
    | call ht hcall rule _ ih => exact fun hb => ih (hclosed _ ((hb _ ht).2 hcall) _ rule)
  exact found leads (hwork _ rule)

/-! ## What is found -/

/-- A script shows a step: it is a say step. -/
def Shows (s : Script) (id : Int) : Prop := ∃ t, s.step? id = some t ∧ t.isSay = true

/-- The search for say steps finds nothing else. -/
theorem shows_of_mem_follow {fuel : Nat} {b : Int} :
    ∀ {work passed found : List Int}, b ∈ s.follow fuel work passed found → b ∈ found ∨ s.Shows b := by
  induction fuel with
  | zero => exact fun h => .inl h
  | succ fuel ih =>
    intro work passed found h
    cases work with
    | nil => exact .inl h
    | cons target rest =>
      unfold follow at h
      split at h
      · exact ih h
      · next t ht =>
        split at h
        · next hsay =>
          rcases ih h with hb | hb
          · split at hb
            · exact .inl hb
            · rcases List.mem_append.1 hb with hb | hb
              · exact .inl hb
              · obtain rfl := List.mem_singleton.1 hb
                exact .inr ⟨t, ht, hsay⟩
          · exact .inr hb
        · split at h <;> exact ih h

/-- **The next say steps** are say steps. -/
theorem shows_of_mem_nextSteps {id b : Int} (h : b ∈ s.nextSteps id) : s.Shows b :=
  (shows_of_mem_follow h).resolve_left List.not_mem_nil

theorem shows_of_freeze_eq {t : Script} (h : t.freeze = s.freeze) : t.Shows = s.Shows := by
  have hshows : t.freeze.Shows = s.freeze.Shows := congrArg Shows h
  exact hshows

theorem hasStep_of_freeze_eq {t : Script} (h : t.freeze = s.freeze) : t.hasStep = s.hasStep := by
  have hknown : t.freeze.hasStep = s.freeze.hasStep := congrArg hasStep h
  exact hknown

theorem choice?_of_freeze_eq {t : Script} (h : t.freeze = s.freeze) : t.choice? = s.choice? := by
  have hknown : t.freeze.choice? = s.freeze.choice? := congrArg choice? h
  exact hknown

theorem Shows.hasStep {id : Int} (h : s.Shows id) : s.hasStep id = true := by
  obtain ⟨t, ht, -⟩ := h
  exact OrderedMap.contains_iff.2 ⟨t, ht⟩

/-- Closing a script to changes does not matter to the search. -/
theorem follow_freeze (fuel : Nat) (work passed found : List Int) :
    s.freeze.follow fuel work passed found = s.follow fuel work passed found := by
  have hstep : s.freeze.step? = s.step? := rfl
  have htargets : s.freeze.targets = s.targets := rfl
  induction fuel generalizing work passed found with
  | zero => rfl
  | succ fuel ih =>
    cases work with
    | nil => rfl
    | cons target rest =>
      unfold follow
      simp only [hstep, htargets, ih]

theorem nextSteps_of_freeze_eq {t : Script} (h : t.freeze = s.freeze) (id : Int) :
    t.nextSteps id = s.nextSteps id := by
  have hfreeze : ∀ u : Script, u.freeze.nextSteps id = u.nextSteps id := fun u => follow_freeze _ _ _ _
  rw [← hfreeze t, h, hfreeze s]

end Script
end Walkthrough
