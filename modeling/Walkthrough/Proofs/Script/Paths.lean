/-
# Paths in the graph of a script

The rules of a step lead to other numbers, some of which are steps (`Script.Edge`). The two searches in this
graph are described by its paths, without saying how they search:

| search | what it finds |
| --- | --- |
| `nextSteps` | the say steps at the end of a path on which all steps between are call steps |
| `reachable` | the say steps at the end of any path |

The first is `mem_nextSteps_iff`, where such a path is a `Passage`, and the second `mem_reachable_iff`. A path
is cut into passages at its say steps, so that the second search needs no hops but those of the first. What
carries the proof along a path is that the next say steps of every step on it are reached. Both searches come to
an end by themselves within the number of steps that is allowed to them (`follow_enough`, `reach_enough`).
-/

import Mathlib.Data.List.Chain
import Mathlib.Data.List.Nodup
import Mathlib.Logic.Relation
import Walkthrough.Proofs.Script.Reachability

namespace Walkthrough
namespace Script

variable {s : Script} {a b first id : Int}

/-- A rule of the step `a` leads to `b`, whether there is such a step or not. -/
def Edge (s : Script) (a b : Int) : Prop := ∃ x, s.step? a = some x ∧ ∃ r ∈ x.rules, r.target = b

theorem mem_targets_iff : b ∈ s.targets a ↔ s.Edge a b := by
  unfold targets Edge
  cases s.step? a <;> simp

/-- A call step, which a move passes through. -/
def Passes (s : Script) (id : Int) : Prop := ∃ x, s.step? id = some x ∧ x.isCall = true

/-- **A passage** from a step to a say step: rules lead from each step to the one after it, and all steps
between are call steps. -/
structure Passage (s : Script) (a : Int) (between : List Int) (b : Int) : Prop where
  edges : (a :: (between ++ [b])).IsChain s.Edge
  calls : ∀ f ∈ between, s.Passes f
  shows : s.Shows b

/-! ## Passages -/

/-- The first hop of a passage, and what it leads to. -/
theorem exists_passage_iff :
    (∃ between, s.Passage a between b) ↔ ∃ next ∈ s.targets a, s.Leads next b := by
  constructor
  · rintro ⟨between, h⟩
    induction between generalizing a with
    | nil =>
      obtain ⟨x, hx, hsay⟩ := h.shows
      exact ⟨b, mem_targets_iff.2 (List.isChain_pair.1 h.edges), .say hx hsay⟩
    | cons f rest ih =>
      obtain ⟨hedge, hedges⟩ := List.isChain_cons_cons.1 h.edges
      obtain ⟨x, hx, hcall⟩ := h.calls f List.mem_cons_self
      have hrest : s.Passage f rest b :=
        ⟨hedges, fun g hg => h.calls g (List.mem_cons_of_mem _ hg), h.shows⟩
      obtain ⟨next, hnext, hleads⟩ := ih hrest
      exact ⟨f, mem_targets_iff.2 hedge, .call hx (by simpa [Step.isCall] using hcall) hnext hleads⟩
  · rintro ⟨next, hnext, hleads⟩
    induction hleads generalizing a with
    | @say b x hx hsay =>
      have hedges : [a, b].IsChain s.Edge := List.isChain_pair.2 (mem_targets_iff.1 hnext)
      exact ⟨[], hedges, fun _ h => absurd h List.not_mem_nil, x, hx, hsay⟩
    | @call f _ _ x hx hcall rule _ ih =>
      obtain ⟨between, h⟩ := ih rule
      refine ⟨f :: between, List.isChain_cons_cons.2 ⟨mem_targets_iff.1 hnext, h.edges⟩, ?_, h.shows⟩
      exact List.forall_mem_cons.2 ⟨⟨x, hx, by simp [Step.isCall, hcall]⟩, h.calls⟩

/-- A passage is a path. -/
theorem Passage.path {between : List Int} (h : s.Passage a between b) : Relation.ReflTransGen s.Edge a b :=
  List.relationReflTransGen_of_exists_isChain_cons (between ++ [b]) h.edges (by simp)

/-! ## The search for the next say steps -/

/-- The search for say steps finds those that its targets lead to, and no others. -/
theorem leads_of_mem_follow {fuel : Nat} : ∀ {work passed found : List Int},
    b ∈ s.follow fuel work passed found → b ∈ found ∨ ∃ target ∈ work, s.Leads target b := by
  induction fuel with
  | zero => exact fun h => .inl h
  | succ fuel ih =>
    intro work passed found h
    cases work with
    | nil => exact .inl h
    | cons target rest =>
      -- What the rest of the targets leads to.
      have later : (∃ t ∈ rest, s.Leads t b) → ∃ t ∈ target :: rest, s.Leads t b :=
        fun ⟨t, ht, hleads⟩ => ⟨t, List.mem_cons_of_mem _ ht, hleads⟩
      unfold follow at h
      split at h
      · exact (ih h).imp_right later
      · next x hx =>
        split at h
        · next hsay =>
          rcases ih h with hb | hb
          · split at hb
            · exact .inl hb
            · refine (List.mem_append.1 hb).imp_right fun hb => ?_
              obtain rfl := List.mem_singleton.1 hb
              exact ⟨b, List.mem_cons_self, .say hx hsay⟩
          · exact .inr (later hb)
        · next hcall =>
          split at h
          · exact (ih h).imp_right later
          · refine (ih h).imp_right fun ⟨t, ht, hleads⟩ => ?_
            rcases List.mem_append.1 ht with ht | ht
            · exact ⟨target, List.mem_cons_self, .call hx (by simpa using hcall) ht hleads⟩
            · exact later ⟨t, ht, hleads⟩

/-- A next say step is one to which a target leads. -/
theorem exists_leads_of_mem_nextSteps (h : b ∈ s.nextSteps a) : ∃ next ∈ s.targets a, s.Leads next b :=
  (leads_of_mem_follow h).resolve_left List.not_mem_nil

theorem nodup_follow {fuel : Nat} : ∀ {work passed found : List Int},
    found.Nodup → (s.follow fuel work passed found).Nodup := by
  induction fuel with
  | zero => exact fun h => h
  | succ fuel ih =>
    intro work passed found h
    cases work with
    | nil => exact h
    | cons target rest =>
      unfold follow
      split
      · exact ih h
      · split
        · refine ih ?_
          split
          · exact h
          · next hnew =>
            rw [← List.concat_eq_append, List.nodup_concat]
            exact ⟨by simpa using hnew, h⟩
        · split <;> exact ih h

/-- **No next say step is found twice.** -/
theorem nodup_nextSteps (s : Script) (id : Int) : (s.nextSteps id).Nodup := nodup_follow List.nodup_nil

/-- **The next say steps** are those at the end of a passage. -/
theorem WellFormed.mem_nextSteps_iff (w : s.WellFormed) :
    b ∈ s.nextSteps a ↔ ∃ between, s.Passage a between b := by
  rw [exists_passage_iff]
  exact ⟨exists_leads_of_mem_nextSteps, fun ⟨_, hnext, hleads⟩ => w.mem_nextSteps_of_leads hnext hleads⟩

theorem follow_nil (fuel : Nat) (passed found : List Int) : s.follow fuel [] passed found = found := by
  cases fuel <;> rfl

/-- What is no step has no next say steps. -/
theorem nextSteps_of_step?_eq_none (h : s.step? id = none) : s.nextSteps id = [] := by
  have htargets : s.targets id = [] := by simp only [targets, h]
  rw [nextSteps, htargets, follow_nil]

/-- **The search for say steps ends** once every target was followed and every call step expanded: more steps
do not change what it finds. -/
theorem WellFormed.follow_enough (w : s.WellFormed) (more : Nat) :
    ∀ (fuel : Nat) (work passed found : List Int), work.length + s.openRules passed ≤ fuel →
      s.follow (fuel + more) work passed found = s.follow fuel work passed found := by
  intro fuel
  induction fuel with
  | zero =>
    intro work passed found hfuel
    obtain rfl : work = [] := List.length_eq_zero_iff.1 (by omega)
    rw [follow_nil, follow_nil]
  | succ fuel ih =>
    intro work passed found hfuel
    cases work with
    | nil => rw [follow_nil, follow_nil]
    | cons target rest =>
      rw [List.length_cons] at hfuel
      have hrest : rest.length + s.openRules passed ≤ fuel := by omega
      rw [Nat.add_right_comm]
      unfold follow
      split
      · exact ih rest passed found hrest
      · next x hx =>
        split
        · exact ih rest passed _ hrest
        · next hcall =>
          split
          · exact ih rest passed found hrest
          · next hnew =>
            have hopen := w.openRules_cons hx (by simpa using hcall) (by simpa using hnew)
            exact ih (s.targets target ++ rest) (target :: passed) found (by rw [List.length_append]; omega)

theorem WellFormed.follow_eq_nextSteps (w : s.WellFormed) {fuel : Nat} (h : 2 * s.ruleCount + 1 ≤ fuel) :
    s.follow fuel (s.targets id) [] [] = s.nextSteps id := by
  obtain ⟨more, rfl⟩ := Nat.exists_eq_add_of_le h
  have hfuel : (s.targets id).length + s.openRules [] ≤ 2 * s.ruleCount + 1 := by
    have := length_targets_le_ruleCount (s := s) id
    have := openRules_le_ruleCount (s := s) []
    omega
  exact w.follow_enough more _ _ _ _ hfuel

/-! ## The search for reachable steps -/

/-- What is added to what was reached, and to what is still to be followed, was found. -/
theorem mem_spread {next : List Int} {x : Int} : ∀ {reached pending : List Int},
    (x ∈ (spread next (reached, pending)).1 → x ∈ reached ∨ x ∈ next) ∧
      (x ∈ (spread next (reached, pending)).2 → x ∈ pending ∨ x ∈ next) := by
  induction next with
  | nil => exact ⟨.inl, .inl⟩
  | cons y rest ih =>
    intro reached pending
    have later : ∀ {l : List Int}, x ∈ l ∨ x ∈ rest → x ∈ l ∨ x ∈ y :: rest :=
      fun h => h.imp_right (List.mem_cons_of_mem y)
    by_cases hy : reached.contains y
    · have heq : spread (y :: rest) (reached, pending) = spread rest (reached, pending) := by
        simp only [spread, List.foldl_cons, hy, if_true]
      rw [heq]
      exact ⟨fun h => later (ih.1 h), fun h => later (ih.2 h)⟩
    · have heq : spread (y :: rest) (reached, pending) = spread rest (reached ++ [y], y :: pending) := by
        simp only [spread, List.foldl_cons, hy, Bool.false_eq_true, if_false]
      rw [heq]
      constructor
      · intro h
        rcases ih.1 h with h | h
        · exact (List.mem_append.1 h).imp_right fun h => List.mem_cons.2 (.inl (List.mem_singleton.1 h))
        · exact later (.inr h)
      · intro h
        rcases ih.2 h with h | h
        · exact (List.mem_cons.1 h).symm.imp_right fun h => List.mem_cons.2 (.inl h)
        · exact later (.inr h)

/-- **Nothing is reached but by a path.** The induction is on the number of steps left. -/
theorem path_of_mem_reach {fuel : Nat} : ∀ {reached pending : List Int},
    (∀ x ∈ reached, Relation.ReflTransGen s.Edge first x) →
      (∀ x ∈ pending, Relation.ReflTransGen s.Edge first x) →
        ∀ x ∈ s.reach fuel (reached, pending), Relation.ReflTransGen s.Edge first x := by
  induction fuel with
  | zero => exact fun hreached _ => hreached
  | succ fuel ih =>
    intro reached pending hreached hpending
    cases pending with
    | nil => exact hreached
    | cons here pending =>
      have hhere := hpending here List.mem_cons_self
      have hnext : ∀ x ∈ s.nextSteps here, Relation.ReflTransGen s.Edge first x := fun x hx => by
        obtain ⟨between, h⟩ := exists_passage_iff.2 (exists_leads_of_mem_nextSteps hx)
        exact hhere.trans h.path
      refine ih (fun x hx => ?_) fun x hx => ?_
      · exact (mem_spread.1 hx).elim (hreached x) (hnext x)
      · exact (mem_spread.2 hx).elim (fun h => hpending x (List.mem_cons_of_mem _ h)) (hnext x)

/-- **No say step on a path is missed.** Along a path, what is reached holds the next say steps of every step;
so it holds the step itself, if that is a say step. -/
theorem WellFormed.nextSteps_subset_of_path (w : s.WellFormed) (h : Relation.ReflTransGen s.Edge first id) :
    s.nextSteps id ⊆ s.reachable first ∧ (s.Shows id → id ∈ s.reachable first) := by
  obtain ⟨hself, hclosed⟩ := w.reachable_closed first
  induction h with
  | refl => exact ⟨hclosed first hself, fun _ => hself⟩
  | @tail a b _ hedge ih =>
    have hshows : s.Shows b → b ∈ s.reachable first := fun ⟨x, hx, hsay⟩ =>
      ih.1 (w.mem_nextSteps_of_leads (mem_targets_iff.2 hedge) (.say hx hsay))
    refine ⟨fun goal hgoal => ?_, hshows⟩
    obtain ⟨next, hnext, hleads⟩ := exists_leads_of_mem_nextSteps hgoal
    obtain ⟨x, hx, -⟩ := mem_targets_iff.1 hnext
    cases hsay : x.isSay with
    | true => exact hclosed b (hshows ⟨x, hx, hsay⟩) goal hgoal
    | false => exact ih.1 (w.mem_nextSteps_of_leads (mem_targets_iff.2 hedge) (.call hx hsay hnext hleads))

/-- **The reachable say steps** are those at the end of a path. -/
theorem WellFormed.mem_reachable_iff (w : s.WellFormed) (shows : s.Shows id) :
    id ∈ s.reachable first ↔ Relation.ReflTransGen s.Edge first id := by
  constructor
  · have hfirst : ∀ x ∈ [first], Relation.ReflTransGen s.Edge first x := List.forall_mem_singleton.2 .refl
    exact path_of_mem_reach hfirst hfirst id
  · exact fun h => (w.nextSteps_subset_of_path h).2 shows

/-- **The search for reachable steps ends** once every step that was reached was followed: more steps do not
change what it finds. -/
theorem WellFormed.reach_enough (w : s.WellFormed) (more : Nat) :
    ∀ (fuel : Nat) (reached pending : List Int), pending.length + s.unreached reached ≤ fuel →
      s.reach (fuel + more) (reached, pending) = s.reach fuel (reached, pending) := by
  have stops : ∀ (fuel : Nat) (reached : List Int), s.reach fuel (reached, []) = reached :=
    fun fuel reached => by cases fuel <;> rfl
  intro fuel
  induction fuel with
  | zero =>
    intro reached pending hfuel
    obtain rfl : pending = [] := List.length_eq_zero_iff.1 (by omega)
    rw [stops, stops]
  | succ fuel ih =>
    intro reached pending hfuel
    cases pending with
    | nil => rw [stops, stops]
    | cons here pending =>
      obtain ⟨new, hreached, -, -, hle⟩ :=
        w.spread_adds (fun y (hy : y ∈ s.nextSteps here) => shows_of_mem_nextSteps hy) reached pending
      rw [List.length_cons] at hfuel
      have hspread : (spread (s.nextSteps here) (reached, pending)).2.length +
          s.unreached (spread (s.nextSteps here) (reached, pending)).1 ≤ fuel := by
        rw [hreached]
        omega
      rw [Nat.add_right_comm, reach, reach]
      exact ih _ _ hspread

theorem WellFormed.reach_eq_reachable (w : s.WellFormed) {fuel : Nat} (h : s.steps.size + 2 ≤ fuel) :
    s.reach fuel ([first], [first]) = s.reachable first := by
  obtain ⟨more, rfl⟩ := Nat.exists_eq_add_of_le h
  have hfuel : [first].length + s.unreached [first] ≤ s.steps.size + 2 := by
    have := s.unreached_le_size [first]
    rw [List.length_singleton]
    omega
  exact w.reach_enough more _ _ _ hfuel

/-! ## A maze -/

/-- A word that is found on the way. -/
def word : Property := ⟨1, "word", .string, none, Int.zero_lt_one, by decide⟩

/-- A script without steps over it. -/
def blankMaze : Script := ⟨Schema.empty.declare word, .empty, none, false⟩

/-- From the gate two call steps lead to each other, to the middle and back to the gate. One of them also leads
to itself, some rules lead nowhere, and no rule leads to the tower. -/
def maze : Script :=
  let gate := blankMaze.withSay "Gate"
    { id := .int 1, first := true, rules := [(none, .int 2), (none, .int 9)] }
  let left := gate.withCall { name := "echo", result := some 1 }
    { id := .int 2, rules := [(none, .int 3), (none, .int 2)] }
  let right := left.withCall { name := "echo", result := some 1 }
    { id := .int 3, rules := [(none, .int 4), (none, .int 2), (none, .int 9), (none, .int 9), (none, .int 1)] }
  (right.withSay "Middle" { id := .int 4 }).withSay "Tower" { id := .int 5, rules := [(none, .int 4)] }

theorem maze_built : maze.Built :=
  have blank : blankMaze.Built := .ofProperties (show ofProperties [word] = .ok blankMaze from rfl)
  ((((blank.withSay _ _).withCall _ _).withCall _ _).withSay _ _).withSay _ _

end Script
end Walkthrough
