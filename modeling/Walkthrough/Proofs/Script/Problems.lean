/-
# The problems of a script are those of its graph

The lines that a check of a script gives, each with what it says (`problems_exact`), unless a rule leads to no step
under a number that is too long to be written (`Overlong`):

| line | what is wrong |
| --- | --- |
| First step not defined | no step is first |
| condition target not found | a rule leads to no step, one line for each such rule |
| not reachable from the first step | no path leads from the first step to a say step |

Different problems have different lines (`Problem.message_injective`): the number of the step is the longest run
of digits behind the first word, and so is the number of the target behind its words. So lines can be counted as
problems, and a problem is counted at the only step that has its number (`count_flatMap_of_mem`).
-/

import Mathlib.Data.List.Count
import Walkthrough.Proofs.Number.Decimal
import Walkthrough.Proofs.Script.Paths

namespace Walkthrough
namespace Script

variable {s : Script} {x : Step}

/-! ## Lines -/

theorem toString_injective {m n : Int} (h : (toString m).toList = (toString n).toList) : m = n := by
  have hsplit := congrArg Number.splitSign h
  rw [Number.splitSign_toString, Number.splitSign_toString] at hsplit
  obtain ⟨hsign, hdigits⟩ := Prod.mk.inj hsplit
  have habs : m.natAbs = n.natAbs := by
    rw [← Nat.ofDigitChars_ten_toDigits (n := m.natAbs), hdigits, Nat.ofDigitChars_ten_toDigits]
  rw [← Number.signed_natAbs m, hsign, habs, Number.signed_natAbs]

/-- A number in a text ends where its digits do. -/
theorem toString_append_inj {m n : Int} {c : Char} {p q : List Char} (hc : c ≠ '-' ∧ c.isDigit = false)
    (h : (toString m).toList ++ c :: p = (toString n).toList ++ c :: q) : m = n ∧ p = q := by
  have hspan : ∀ (k : Int) (rest : List Char),
      ((toString k).toList ++ c :: rest).takeWhile (fun x => x == '-' || x.isDigit) = (toString k).toList := by
    intro k rest
    rw [List.takeWhile_append_of_pos fun x hx => by simpa using Number.mem_toString hx,
      List.takeWhile_cons_of_neg (by simpa using hc), List.append_nil]
  have hdigits : (toString m).toList = (toString n).toList := by rw [← hspan m p, h, hspan n q]
  rw [hdigits] at h
  exact ⟨toString_injective hdigits, (List.cons.inj (List.append_cancel_left h)).2⟩

theorem toList_unknownTarget (id target : Int) : (Problem.unknownTarget id target).message.toList =
    "Step ".toList ++ ((toString id).toList ++ ':' :: (" condition target ".toList ++
      ((toString target).toList ++ ' ' :: "not found".toList))) := by
  simp [Problem.message, String.toList_append]

theorem toList_unreachable (id : Int) : (Problem.unreachable id).message.toList =
    "Step ".toList ++ ((toString id).toList ++ ':' :: " not reachable from the first step".toList) := by
  simp [Problem.message, String.toList_append]

/-- **Different problems have different lines.** -/
theorem Problem.message_injective : Function.Injective Problem.message := by
  have colon : ':' ≠ '-' ∧ ':'.isDigit = false := by decide
  have space : ' ' ≠ '-' ∧ ' '.isDigit = false := by decide
  have first : ∀ rest, Problem.noFirstStep.message.toList ≠ "Step ".toList ++ rest := by
    simp [Problem.message]
  have words : ∀ rest,
      " condition target ".toList ++ rest ≠ " not reachable from the first step".toList := by
    simp
  intro p q heq
  have h := congrArg String.toList heq
  cases p with
  | noFirstStep =>
    cases q with
    | noFirstStep => rfl
    | unknownTarget => exact absurd (h.trans (toList_unknownTarget _ _)) (first _)
    | unreachable => exact absurd (h.trans (toList_unreachable _)) (first _)
  | unknownTarget id target =>
    rw [toList_unknownTarget] at h
    cases q with
    | noFirstStep => exact absurd h.symm (first _)
    | unknownTarget =>
      rw [toList_unknownTarget] at h
      obtain ⟨rfl, hrest⟩ := toString_append_inj colon (List.append_cancel_left h)
      obtain ⟨rfl, -⟩ := toString_append_inj space (List.append_cancel_left hrest)
      rfl
    | unreachable =>
      rw [toList_unreachable] at h
      exact absurd (toString_append_inj colon (List.append_cancel_left h)).2 (words _)
  | unreachable id =>
    rw [toList_unreachable] at h
    cases q with
    | noFirstStep => exact absurd h.symm (first _)
    | unknownTarget =>
      rw [toList_unknownTarget] at h
      exact absurd (toString_append_inj colon (List.append_cancel_left h)).2.symm (words _)
    | unreachable =>
      rw [toList_unreachable] at h
      obtain ⟨rfl, -⟩ := toString_append_inj colon (List.append_cancel_left h)
      rfl

/-! ## Counting -/

/-- What only one member of a list gives is counted there. -/
theorem count_flatMap_of_mem {α : Type} {f : α → List Problem} {l : List α} {x : α} {p : Problem}
    (nodup : l.Nodup) (hx : x ∈ l) (only : ∀ y ∈ l, p ∈ f y → y = x) :
    (l.flatMap f).count p = (f x).count p := by
  obtain ⟨front, back, rfl⟩ := List.append_of_mem hx
  obtain ⟨hnot, -⟩ := List.nodup_cons.1 (List.nodup_middle.1 nodup)
  have hfront : (front.flatMap f).count p = 0 := List.count_eq_zero.2 fun hp => by
    obtain ⟨y, hy, hpy⟩ := List.mem_flatMap.1 hp
    obtain rfl := only y (List.mem_append_left _ hy) hpy
    exact hnot (List.mem_append_left _ hy)
  have hback : (back.flatMap f).count p = 0 := List.count_eq_zero.2 fun hp => by
    obtain ⟨y, hy, hpy⟩ := List.mem_flatMap.1 hp
    obtain rfl := only y (List.mem_append_right _ (List.mem_cons_of_mem _ hy)) hpy
    exact hnot (List.mem_append_right _ hy)
  rw [List.flatMap_append, List.flatMap_cons, List.count_append, List.count_append, hfront, hback,
    Nat.zero_add, Nat.add_zero]

theorem Sound.nodup_stepList (sound : s.Sound) : s.stepList.Nodup := sound.nodup_ids.of_map _

/-- The lines about the rules of one step. -/
theorem count_brokenRules (sound : s.Sound) (hx : x ∈ s.stepList) (target : Int) :
    s.brokenRules.count (.unknownTarget x.id target) =
      if s.hasStep target then 0 else (x.rules.map Rule.target).count target := by
  have hone : s.brokenRules.count (.unknownTarget x.id target) =
      ((x.rules.filter fun r => !s.hasStep r.target).map fun r =>
        Problem.unknownTarget x.id r.target).count (.unknownTarget x.id target) := by
    refine count_flatMap_of_mem sound.nodup_stepList hx fun y hy hp => ?_
    obtain ⟨r, -, hr⟩ := List.mem_map.1 hp
    exact List.inj_on_of_nodup_map sound.nodup_ids hy hx (Problem.unknownTarget.inj hr).1
  have htargets : ((x.rules.filter fun r => !s.hasStep r.target).map fun r =>
      Problem.unknownTarget x.id r.target) =
        (((x.rules.map Rule.target).filter fun t => !s.hasStep t).map (Problem.unknownTarget x.id)) := by
    rw [List.filter_map, List.map_map]
    rfl
  rw [hone, htargets, List.count_map_of_injective _ _ fun _ _ h => (Problem.unknownTarget.inj h).2]
  split
  · next h => exact List.count_eq_zero.2 fun hm => by simp [h] at hm
  · next h => exact List.count_filter (by simpa using h)

theorem mem_brokenRules_iff {p : Problem} : p ∈ s.brokenRules ↔
    ∃ x ∈ s.stepList, ∃ r ∈ x.rules, s.hasStep r.target = false ∧ .unknownTarget x.id r.target = p := by
  simp [brokenRules, and_assoc]

theorem mem_lostSteps_iff {p : Problem} {first : Int} : p ∈ s.lostSteps first ↔
    ∃ x ∈ s.stepList, x.isSay = true ∧ x.id ∉ s.reachable first ∧ .unreachable x.id = p := by
  simp [lostSteps, and_assoc]

/-- No step is called unreachable twice. -/
theorem nodup_lostSteps (sound : s.Sound) (first : Int) : (s.lostSteps first).Nodup := by
  have hids : ((s.stepList.filter fun x => x.isSay && !(s.reachable first).contains x.id).map Step.id).Nodup :=
    (List.filter_sublist.map _).nodup sound.nodup_ids
  have hmap : s.lostSteps first = (((s.stepList.filter fun x =>
      x.isSay && !(s.reachable first).contains x.id).map Step.id).map Problem.unreachable) := by
    rw [List.map_map]
    rfl
  rw [hmap]
  exact hids.map fun _ _ h => Problem.unreachable.inj h

/-! ## Problems -/

/-- The three kinds of problems, one after the other. -/
theorem problems_eq (s : Script) : s.problems =
    (if s.first = none then [.noFirstStep] else []) ++
      (s.brokenRules ++ s.first.toList.flatMap s.lostSteps) := by
  unfold problems
  cases s.first <;> simp

theorem mem_problems_iff {p : Problem} : p ∈ s.problems ↔
    s.first = none ∧ p = .noFirstStep ∨ p ∈ s.brokenRules ∨
      ∃ first, s.first = some first ∧ p ∈ s.lostSteps first := by
  simp [problems_eq]

theorem noFirstStep_mem_problems_iff : .noFirstStep ∈ s.problems ↔ s.first = none := by
  simp [mem_problems_iff, mem_brokenRules_iff, mem_lostSteps_iff]

/-- Each rule that leads to no step has a line of its own. -/
theorem Sound.count_unknownTarget (sound : s.Sound) (hx : x ∈ s.stepList) (target : Int) :
    s.problems.count (.unknownTarget x.id target) =
      if s.hasStep target then 0 else (x.rules.map Rule.target).count target := by
  have hfirst : (if s.first = none then [Problem.noFirstStep] else []).count
      (.unknownTarget x.id target) = 0 := by split <;> simp
  have hlost : (s.first.toList.flatMap s.lostSteps).count (.unknownTarget x.id target) = 0 :=
    List.count_eq_zero.2 (by simp [mem_lostSteps_iff])
  rw [problems_eq, List.count_append, List.count_append, hfirst, hlost, count_brokenRules sound hx,
    Nat.zero_add, Nat.add_zero]

/-- No other problem is listed twice. -/
theorem Sound.count_le_one (sound : s.Sound) {p : Problem} (h : ∀ id target, p ≠ .unknownTarget id target) :
    s.problems.count p ≤ 1 := by
  have hbroken : s.brokenRules.count p = 0 := List.count_eq_zero.2 fun hp => by
    obtain ⟨x, -, r, -, -, rfl⟩ := mem_brokenRules_iff.1 hp
    exact h _ _ rfl
  rw [problems_eq, List.count_append, List.count_append, hbroken, Nat.zero_add]
  cases hfirst : s.first with
  | none => exact List.nodup_iff_count_le_one.1 (List.nodup_singleton Problem.noFirstStep) p
  | some first =>
    rw [if_neg (Option.some_ne_none first), List.count_nil, Nat.zero_add, Option.toList_some,
      List.flatMap_singleton]
    exact List.nodup_iff_count_le_one.1 (nodup_lostSteps sound first) p

theorem Sound.first_eq_some_iff (sound : s.Sound) {id : Int} :
    s.first = some id ↔ ∃ f ∈ s.stepList, f.isFirst = true ∧ f.id = id := by
  constructor
  · intro h
    obtain ⟨f, hf⟩ := OrderedMap.contains_iff.1 (sound.first h)
    exact ⟨f, mem_stepList.2 ⟨id, hf⟩, (sound.marked hf).2 h, sound.keyed hf⟩
  · rintro ⟨f, hf, hfirst, rfl⟩
    exact (sound.marked (sound.step?_of_mem hf)).1 hfirst

/-- **What is called unreachable**: a say step to which no path leads from the first step. -/
theorem Built.unreachable_mem_problems_iff (b : s.Built) (hx : x ∈ s.stepList) :
    .unreachable x.id ∈ s.problems ↔ x.isSay = true ∧
      ∃ f ∈ s.stepList, f.isFirst = true ∧ ¬Relation.ReflTransGen s.Edge f.id x.id := by
  have hreach : x.isSay = true →
      ∀ first, x.id ∈ s.reachable first ↔ Relation.ReflTransGen s.Edge first x.id :=
    fun hsay first => b.wellFormed.mem_reachable_iff ⟨x, b.sound.step?_of_mem hx, hsay⟩
  constructor
  · intro h
    obtain ⟨-, ⟨⟩⟩ | hbroken | ⟨first, hfirst, hlost⟩ := mem_problems_iff.1 h
    · obtain ⟨_, _, _, _, _, ⟨⟩⟩ := mem_brokenRules_iff.1 hbroken
    · obtain ⟨y, hy, hsay, hunreached, hp⟩ := mem_lostSteps_iff.1 hlost
      obtain rfl := List.inj_on_of_nodup_map b.sound.nodup_ids hy hx (Problem.unreachable.inj hp)
      obtain ⟨f, hf, hmarked, rfl⟩ := b.sound.first_eq_some_iff.1 hfirst
      exact ⟨hsay, f, hf, hmarked, mt (hreach hsay f.id).2 hunreached⟩
  · rintro ⟨hsay, f, hf, hmarked, hpath⟩
    have hfirst := b.sound.first_eq_some_iff.2 ⟨f, hf, hmarked, rfl⟩
    have hlost : x.id ∉ s.reachable f.id := mt (hreach hsay f.id).1 hpath
    exact mem_problems_iff.2 (.inr (.inr ⟨f.id, hfirst, mem_lostSteps_iff.2 ⟨x, hx, hsay, hlost, rfl⟩⟩))

/-- What a problem can be about. -/
theorem about_of_mem_problems {p : Problem} (h : p ∈ s.problems) : p = .noFirstStep ∨
    ∃ x ∈ s.stepList, p = .unreachable x.id ∨
      ∃ r ∈ x.rules, s.hasStep r.target = false ∧ p = .unknownTarget x.id r.target := by
  obtain ⟨-, rfl⟩ | hbroken | ⟨first, -, hlost⟩ := mem_problems_iff.1 h
  · exact .inl rfl
  · obtain ⟨x, hx, r, hr, htarget, rfl⟩ := mem_brokenRules_iff.1 hbroken
    exact .inr ⟨x, hx, .inr ⟨r, hr, htarget, rfl⟩⟩
  · obtain ⟨x, hx, -, -, rfl⟩ := mem_lostSteps_iff.1 hlost
    exact .inr ⟨x, hx, .inl rfl⟩

/-- **A script has no problems** exactly if it has a first step, every rule leads to a step, and a path leads
from the first step to every say step. -/
theorem Built.problems_eq_nil_iff (b : s.Built) : s.problems = [] ↔
    (∃ f ∈ s.stepList, f.isFirst = true) ∧
      (∀ x ∈ s.stepList, ∀ r ∈ x.rules, s.hasStep r.target = true) ∧
      ∀ f ∈ s.stepList, f.isFirst = true →
        ∀ x ∈ s.stepList, x.isSay = true → Relation.ReflTransGen s.Edge f.id x.id := by
  constructor
  · intro h
    have hno : ∀ p, p ∉ s.problems := fun p hp => by
      rw [h] at hp
      cases hp
    refine ⟨?_, fun x hx r hr => ?_, fun f hf hmarked x hx hsay => ?_⟩
    · obtain ⟨first, hfirst⟩ := Option.ne_none_iff_exists'.1 (mt noFirstStep_mem_problems_iff.2 (hno _))
      obtain ⟨f, hf, hmarked, -⟩ := b.sound.first_eq_some_iff.1 hfirst
      exact ⟨f, hf, hmarked⟩
    · by_contra htarget
      exact hno _ (mem_problems_iff.2 (.inr (.inl
        (mem_brokenRules_iff.2 ⟨x, hx, r, hr, Bool.eq_false_iff.2 htarget, rfl⟩))))
    · by_contra hpath
      exact hno _ ((b.unreachable_mem_problems_iff hx).2 ⟨hsay, f, hf, hmarked, hpath⟩)
  · rintro ⟨⟨f, hf, hmarked⟩, htargets, hpaths⟩
    refine List.eq_nil_iff_forall_not_mem.2 fun p hp => ?_
    obtain rfl | ⟨x, hx, rfl | ⟨r, hr, htarget, -⟩⟩ := about_of_mem_problems hp
    · have hnone := noFirstStep_mem_problems_iff.1 hp
      rw [b.sound.first_eq_some_iff.2 ⟨f, hf, hmarked, rfl⟩] at hnone
      cases hnone
    · obtain ⟨hsay, f, hf, hmarked, hpath⟩ := (b.unreachable_mem_problems_iff hx).1 hp
      exact hpath (hpaths f hf hmarked x hx hsay)
    · rw [htargets x hx r hr] at htarget
      cases htarget

/-- A rule leads to no step, and its target has too many digits for a line. -/
def Overlong (s : Script) : Prop :=
  ∃ x ∈ s.stepList, ∃ r ∈ x.rules, s.hasStep r.target = false ∧ Value.isShort r.target = false

/-- Only the targets of rules can be too long to be put in words: the numbers of steps are not. -/
theorem Built.isWritable_problems_iff (b : s.Built) : s.problems.all Problem.isWritable = true ↔ ¬s.Overlong := by
  rw [List.all_eq_true]
  constructor
  · rintro h ⟨x, hx, r, hr, htarget, hlong⟩
    have hlisted : Problem.unknownTarget x.id r.target ∈ s.problems :=
      mem_problems_iff.2 (.inr (.inl (mem_brokenRules_iff.2 ⟨x, hx, r, hr, htarget, rfl⟩)))
    have hwritable := h _ hlisted
    rw [Problem.isWritable, hlong, Bool.and_false] at hwritable
    cases hwritable
  · intro h p hp
    obtain rfl | ⟨x, hx, rfl | ⟨r, hr, htarget, rfl⟩⟩ := about_of_mem_problems hp
    · rfl
    · rw [Problem.isWritable, b.wellFormed.short (b.sound.step?_of_mem hx)]
    · rw [Problem.isWritable, b.wellFormed.short (b.sound.step?_of_mem hx), Bool.true_and]
      by_contra hlong
      exact h ⟨x, hx, r, hr, htarget, Bool.eq_false_iff.2 hlong⟩

/-- **What a check gives**: the lines, unless one cannot be written. -/
theorem Built.validate_of_not_overlong (b : s.Built) (h : ¬s.Overlong) :
    s.validate = .ok (s.problems.map Problem.message) := if_pos (b.isWritable_problems_iff.2 h)

theorem Built.validate_of_overlong (b : s.Built) (h : s.Overlong) : s.validate = .error .tooManyDigits :=
  if_neg fun hall => b.isWritable_problems_iff.1 hall h

/-- A check gives no lines exactly if there are no problems. -/
theorem Built.validate_eq_nil_iff (b : s.Built) : s.validate = .ok [] ↔ s.problems = [] := by
  constructor
  · intro h
    by_cases long : s.Overlong
    · rw [b.validate_of_overlong long] at h
      cases h
    · rw [b.validate_of_not_overlong long] at h
      exact List.map_eq_nil_iff.1 (Except.ok.inj h)
  · intro h
    have hall : s.problems.all Problem.isWritable = true := by
      rw [h]
      rfl
    rw [b.validate_of_not_overlong (b.isWritable_problems_iff.1 hall), h]
    rfl

/-- **The problems are those of the graph.** The search for them ends by itself. The check gives the lines about
them, unless a rule leads to no step under a number that is too long to be written; then it breaks off. The line
about the first step stands there exactly if no step is first. There is one line for each rule of a step that leads
to no step, and the line that calls a step unreachable stands there exactly if it is a say step to which no path
leads from the first step, which may be a call step. These lines stand there once, and there are no others; so there
are none at all exactly if nothing of this is wrong. -/
theorem problems_exact (b : s.Built) :
    let lines := s.problems.map Problem.message
    (∀ first fuel, s.steps.size + 2 ≤ fuel → s.reach fuel ([first], [first]) = s.reachable first) ∧
      (¬s.Overlong → s.validate = .ok lines) ∧ (s.Overlong → s.validate = .error .tooManyDigits) ∧
      (Problem.message .noFirstStep ∈ lines ↔ ∀ x ∈ s.stepList, x.isFirst = false) ∧
      (∀ x ∈ s.stepList, ∀ target, lines.count (Problem.message (.unknownTarget x.id target)) =
        if s.hasStep target then 0 else (x.rules.map Rule.target).count target) ∧
      (∀ x ∈ s.stepList, Problem.message (.unreachable x.id) ∈ lines ↔ x.isSay = true ∧
        ∃ f ∈ s.stepList, f.isFirst = true ∧ ¬Relation.ReflTransGen s.Edge f.id x.id) ∧
      (∀ p : Problem, (∀ id target, p ≠ .unknownTarget id target) → lines.count p.message ≤ 1) ∧
      (∀ line ∈ lines, line = Problem.message .noFirstStep ∨
        ∃ x ∈ s.stepList, line = Problem.message (.unreachable x.id) ∨
          ∃ r ∈ x.rules, s.hasStep r.target = false ∧
            line = Problem.message (.unknownTarget x.id r.target)) ∧
      (s.validate = .ok [] ↔ (∃ f ∈ s.stepList, f.isFirst = true) ∧
        (∀ x ∈ s.stepList, ∀ r ∈ x.rules, s.hasStep r.target = true) ∧
        ∀ f ∈ s.stepList, f.isFirst = true →
          ∀ x ∈ s.stepList, x.isSay = true → Relation.ReflTransGen s.Edge f.id x.id) := by
  intro lines
  have hcount : ∀ p, lines.count (Problem.message p) = s.problems.count p :=
    List.count_map_of_injective s.problems _ Problem.message_injective
  have hmem : ∀ p, Problem.message p ∈ lines ↔ p ∈ s.problems :=
    fun p => List.mem_map_of_injective Problem.message_injective
  refine ⟨fun first fuel => b.wellFormed.reach_eq_reachable, b.validate_of_not_overlong, b.validate_of_overlong, ?_,
    fun x hx target => ?_, fun x hx => ?_,
    fun p hp => ?_, fun line hline => ?_, ?_⟩
  · rw [hmem, noFirstStep_mem_problems_iff, b.sound.first_eq_none_iff]
  · rw [hcount, b.sound.count_unknownTarget hx]
  · rw [hmem, b.unreachable_mem_problems_iff hx]
  · rw [hcount]
    exact b.sound.count_le_one hp
  · obtain ⟨p, hp, rfl⟩ := List.mem_map.1 hline
    obtain rfl | ⟨x, hx, rfl | ⟨r, hr, htarget, rfl⟩⟩ := about_of_mem_problems hp
    · exact .inl rfl
    · exact .inr ⟨x, hx, .inl rfl⟩
    · exact .inr ⟨x, hx, .inr ⟨r, hr, htarget, rfl⟩⟩
  · rw [b.validate_eq_nil_iff, b.problems_eq_nil_iff]

/-- In the maze one step has two rules that lead nowhere, and paths lead to the middle but not to the tower. -/
theorem maze_problems :
    let lines := maze.problems.map Problem.message
    maze.Built ∧ maze.validate = .ok lines ∧ lines.length = 4 ∧ lines.count "Step 3: condition target 9 not found" = 2 ∧
      (∀ x ∈ maze.stepList, x.id = 3 → (x.rules.map Rule.target).count 9 = 2) ∧
      (∀ f ∈ maze.stepList, f.isFirst = true → Relation.ReflTransGen maze.Edge f.id 4) ∧
      ∃ f ∈ maze.stepList, f.isFirst = true ∧ ¬Relation.ReflTransGen maze.Edge f.id 5 := by
  intro lines
  obtain ⟨-, hlisted, -, -, hrules, hlost, -, -, -⟩ := problems_exact maze_built
  have found : ∀ id, (maze.step? id).any Step.isSay = true →
      ∃ x ∈ maze.stepList, x.id = id ∧ x.isSay = true := fun id h => by
    obtain ⟨x, hx, hsay⟩ := (Option.any_eq_true _ _).1 h
    exact ⟨x, mem_stepList.2 ⟨id, hx⟩, maze_built.wellFormed.keyed hx, hsay⟩
  obtain ⟨middle, hmiddle, hfour, hsay⟩ := found 4 (by decide +kernel)
  obtain ⟨tower, htower, hfive, -⟩ := found 5 (by decide +kernel)
  have htwice : lines.count "Step 3: condition target 9 not found" = 2 := by decide +kernel
  have hkept : Problem.message (.unreachable 4) ∉ lines := by decide +kernel
  have hcut : Problem.message (.unreachable 5) ∈ lines := by decide +kernel
  have hshort : (maze.stepList.all fun x => x.rules.all fun r => Value.isShort r.target) = true := by decide +kernel
  have hwritable : ¬maze.Overlong := fun ⟨x, hx, r, hr, _, hlong⟩ =>
    Bool.false_ne_true (hlong.symm.trans (List.all_eq_true.1 (List.all_eq_true.1 hshort x hx) r hr))
  refine ⟨maze_built, hlisted hwritable, by decide +kernel, htwice, fun x hx hthree => ?_, fun f hf hmarked => ?_, ?_⟩
  · have hcount := hrules x hx 9
    rw [hthree, if_neg (by decide +kernel)] at hcount
    exact hcount.symm.trans htwice
  · have hpath := (hlost middle hmiddle).2
    rw [hfour] at hpath
    by_contra hno
    exact hkept (hpath ⟨hsay, f, hf, hmarked, hno⟩)
  · have hno := (hlost tower htower).1
    rw [hfive] at hno
    exact (hno hcut).2

/-- A gate with a way to a step that is not there, under a number with too many digits. -/
def remote : Script :=
  blankMaze.withSay "Gate" { id := .int 1, first := true, rules := [(none, .int Number.myriads)] }

/-- **Not every rule without a step has its line**: the check breaks off at a number that is too long. -/
theorem remote_unlisted : remote.Built ∧
    (∃ x ∈ remote.stepList, ∃ r ∈ x.rules, remote.hasStep r.target = false) ∧
    ∀ lines, remote.validate ≠ .ok lines := by
  have hnone : remote.validate.toOption = none := by decide +kernel
  refine ⟨Built.withSay (.ofProperties (show ofProperties [word] = .ok blankMaze from rfl)) _ _, by decide +kernel,
    fun lines h => ?_⟩
  rw [h] at hnone
  cases hnone

end Script
end Walkthrough
