/-
# The path is a stack

The links of an engine stand for one path (`Represents`), and every operation acts on the path as on a
stack (`PathStep`), although the links are written one at a time, erased one at a time, erased for a whole
end of the path, or replaced.

| operation | the path afterwards |
| --- | --- |
| `start` | the step that was reached |
| `advance` to `t`, not on the path | `t` is pushed |
| `advance` to `t`, on the path | all above `t` is popped |
| `back` | the last step is popped |
| `restore` | the path of the snapshot |
| any other, or any that fails | unchanged |

That an operation which fails leaves the path alone needs listeners that do not fail: they are told of a
move after it was made. There is one exception even so: `advance` has moved when it breaks off at a default
value of the step that it reached (`Engine.StumblesOn`).
-/

import Walkthrough.Proofs.Engine.Run

namespace Walkthrough

/-- **What an operation that ends well makes of the path**, with its answer. -/
inductive PathStep : Operation → Option Int → List Int → List Int → Prop where
  | start {t : Int} : PathStep .start none [] [t]
  | push {P : List Int} {t : Int} (h : t ∉ P) : PathStep .advance (some t) P (P ++ [t])
  | rewind {A B : List Int} {t : Int} : PathStep .advance (some t) (A ++ t :: B) (A ++ [t])
  | back {P : List Int} {s t : Int} : PathStep .back (some s) (P ++ [s, t]) (P ++ [s])
  | selectChoice {P : List Int} {step choice : Int} : PathStep (.selectChoice step choice) none P P
  | setValue {P : List Int} {id : Int} {v : Value} : PathStep (.setValue id v) none P P
  | restore {P : List Int} {s : Snapshot} : PathStep (.restore s) none P s.path

namespace Engine

variable {e e' : Engine} {P : List Int} {op : Operation}

/-- An engine stands on a path. -/
def OnPath (e : Engine) (P : List Int) : Prop := Represents e.current e.cameFrom P

/-- **An operation acts on the path as on a stack**, and leaves it alone if it fails. Only `advance` fails after it
has moved, and that where it stumbles. -/
structure ActsOn (op : Operation) (e : Engine) (P : List Int) : Prop where
  made : ∀ answer, op.act.outcome e = .ok answer → ∃ P', PathStep op answer P P' ∧ (op.act.after e).OnPath P'
  kept : ∀ err, op.act.outcome e = .error err → ¬(op = .advance ∧ e.Stumbles) → (op.act.after e).OnPath P
  stumbled : op = .advance → ∀ step, e.StumblesOn step → op.act.outcome e = .error .tooManyDigits ∧
    ∃ P', PathStep .advance (some step.id) P P' ∧ (op.act.after e).OnPath P'

/-! ## What the path says -/

theorem OnPath.path_eq (h : e.OnPath P) : e.path = P := Represents.path_eq h

theorem OnPath.history_eq (h : e.OnPath P) : e.history = P.dropLast := by
  rw [history, h.path_eq]

/-- The step before the current one is the last but one of the path. -/
theorem OnPath.previous_eq (h : e.OnPath P) : e.previous = P.dropLast.getLast? := by
  unfold previous
  rw [← h.last]
  induction P using List.reverseRecOn with
  | nil => rfl
  | append_singleton Q x _ =>
    rw [List.getLast?_concat, List.dropLast_concat]
    exact Represents.get?_eq (M := []) h

theorem OnPath.isFirstStep_iff (h : e.OnPath P) : e.isFirstStep = true ↔ P.length = 1 := by
  unfold isFirstStep isStarted
  rw [h.previous_eq, ← h.last]
  induction P using List.reverseRecOn with
  | nil => simp
  | append_singleton Q x _ =>
    rw [List.getLast?_concat, List.dropLast_concat, List.length_append]
    cases Q using List.reverseRecOn with
    | nil => simp
    | append_singleton R y _ => simp

/-- Steps that are erased when a move comes back to one of the path. -/
theorem links_cut (h : e.OnPath P) {left t : Int} (hl : e.current = some left) :
    ∃ P', PathStep .advance (some t) P P' ∧ Represents (some t) (e.linksAfter left t) P' := by
  unfold linksAfter
  rw [h.path_eq]
  by_cases ht : t ∈ P
  · obtain ⟨A, B, rfl⟩ := List.append_of_mem ht
    have hA : ∀ a ∈ A, (a != t) = true := fun a ha => by
      have hd := (List.nodup_append.1 h.nodup).2.2 a ha t List.mem_cons_self
      simpa using hd
    have hdrop : (((A ++ t :: B).dropWhile (· != t)).drop 1) = B := by
      rw [List.dropWhile_append_of_pos hA, List.dropWhile_cons_of_neg (by simp)]
      rfl
    have hcut := Represents.cut (Q := A ++ [t]) (B := B) (by rw [← List.append_cons]; exact h)
    rw [List.getLast?_concat] at hcut
    refine ⟨A ++ [t], .rewind, ?_⟩
    simp only [List.contains_iff_mem.2 ht, if_true, hdrop]
    exact hcut
  · refine ⟨P ++ [t], .push ht, ?_⟩
    have hc : P.contains t = false := by simpa using ht
    simp only [hc, Bool.false_eq_true, if_false]
    exact Represents.push h hl ht

/-! ## What one operation does -/

/-- A move that fails leaves the path alone. -/
theorem onPath_of_halt {halt : Halt} {c : Chain} (h : e.OnPath P) : (e.moved (.error halt, c)).OnPath P := by
  change Represents e.setOut.current e.setOut.cameFrom P
  rw [current_setOut, cameFrom_setOut]
  exact h

/-- The first move starts the path, if the step that it reaches can be entered. -/
theorem onPath_of_first {step : Step} {c : Chain} (h : e.OnPath []) (logged : step.isLoggable = true) :
    (e.moved (.ok step, c)).OnPath [step.id] := by
  have hc : e.current = none := h.last.symm
  have hset : (e.setOut.afterChain c).current = none := current_setOut.trans hc
  rw [moved_ok, arrive_of_isLoggable logged]
  unfold OnPath
  dsimp only
  rw [hset]
  change Represents (some step.id) e.setOut.cameFrom [step.id]
  rw [cameFrom_setOut]
  unfold OnPath at h
  rw [hc] at h
  exact h.first step.id

/-- A first move that breaks off at the step which it reached leaves the path alone. -/
theorem onPath_of_fall {step : Step} {c : Chain} (h : e.OnPath P) (hc : e.current = none)
    (long : step.isLoggable = false) : (e.moved (.ok step, c)).OnPath P := by
  have hset : (e.setOut.afterChain c).current = none := current_setOut.trans hc
  have hmoved : (e.moved (.ok step, c)).current = none := by
    rw [moved_ok, arrive, isStarted, hset, long]
    rfl
  have hlinks : (e.moved (.ok step, c)).cameFrom = e.cameFrom := by
    refine Eq.trans ?_ cameFrom_setOut
    rw [moved_ok, arrive, hset]
    rfl
  unfold OnPath
  rw [hmoved, hlinks, ← hc]
  exact h

/-- A move from a step makes the path longer, or cuts it. -/
theorem onPath_of_advance {left : Int} (step : Step) (c : Chain) (h : e.OnPath P) (hc : e.current = some left) :
    ∃ P', PathStep .advance (some step.id) P P' ∧ (e.moved (.ok step, c)).OnPath P' := by
  obtain ⟨P', hstep, hP'⟩ := links_cut h hc (t := step.id)
  have hset : (e.setOut.afterChain c).current = some left := current_setOut.trans hc
  have hmoved : (e.moved (.ok step, c)).current = some step.id := by
    rw [moved_ok, arrive, isStarted, hset]
    rfl
  have hlinks : (e.moved (.ok step, c)).cameFrom = (e.setOut.afterChain c).linksAfter left step.id := by
    rw [moved_ok, arrive, hset]
  refine ⟨P', hstep, ?_⟩
  unfold OnPath
  rw [hmoved, hlinks, setOut_of_started hc]
  exact hP'

/-- A move that is made starts the path, makes it longer, or cuts it. -/
theorem onPath_of_arrival {step : Step} (c : Chain) (h : e.OnPath P)
    (made : e.isStarted = true ∨ step.isLoggable = true) :
    ∃ P', PathStep .advance (some step.id) P P' ∧ (e.moved (.ok step, c)).OnPath P' := by
  cases hc : e.current with
  | none =>
    obtain rfl : P = [] := List.getLast?_eq_none_iff.1 (h.last.trans hc)
    refine ⟨[] ++ [step.id], .push List.not_mem_nil, onPath_of_first h (made.resolve_left ?_)⟩
    rw [isStarted, hc]
    exact Bool.false_ne_true
  | some left => exact onPath_of_advance step c h hc

theorem Stays.onPath (h : e.Stays e') (hP : e.OnPath P) : e'.OnPath P := by
  unfold OnPath
  rw [h.current, h.cameFrom]
  exact hP

/-- **What an operation does to the path**, apart from what it tells. -/
theorem Effect.onPath {x : Except Error (Option Int)} (h : Effect e op x e') (hP : e.OnPath P) :
    (∀ a, x = .ok a → ∃ P', PathStep op a P P' ∧ e'.OnPath P') ∧
      ∀ err, x = .error err → e'.OnPath P ∨ op = .advance ∧ ∃ step, e.StumblesOn step ∧
        ∃ P', PathStep .advance (some step.id) P P' ∧ e'.OnPath P' := by
  have failed : ∀ {err : Error} {p : Option Int → Prop}, ∀ a, Except.error err = .ok a → p a := fun _ h => by cases h
  have made : ∀ {a : Option Int} {p : Error → Prop}, ∀ err, Except.ok a = .error err → p err := fun _ h => by cases h
  have stays : ∀ {e'' : Engine} {y : Except Error Unit} {p : Prop}, e''.OnPath P → PathStep op none P P →
      (∀ a, (y.map fun _ => none) = .ok a → ∃ P', PathStep op a P P' ∧ e''.OnPath P') ∧
        ∀ err, (y.map fun _ => (none : Option Int)) = .error err → e''.OnPath P ∨ p := by
    intro e'' y p hpath hstep
    refine ⟨fun a ha => ⟨P, ?_, hpath⟩, fun _ _ => .inl hpath⟩
    cases y with
    | ok _ => exact Except.ok.inj ha ▸ hstep
    | error _ => cases ha
  cases h with
  | refused => exact ⟨failed, fun _ _ => .inl hP⟩
  | halted => exact ⟨failed, fun _ _ => .inl (onPath_of_halt hP)⟩
  | started first way logged =>
    obtain rfl : P = [] := List.getLast?_eq_none_iff.1 (hP.last.trans first)
    exact ⟨fun _ ha => Except.ok.inj ha ▸ ⟨_, .start, onPath_of_first hP logged⟩, made⟩
  | advanced way logged =>
    exact ⟨fun _ ha => Except.ok.inj ha ▸ onPath_of_arrival _ hP (.inr logged), made⟩
  | fell move first way long => exact ⟨failed, fun _ _ => .inl (onPath_of_fall hP first long)⟩
  | @stumbled step c left current way long =>
    have hstarted : e.isStarted = true := by rw [isStarted, current]; rfl
    exact ⟨failed, fun _ _ => .inr ⟨rfl, step, ⟨hstarted, congrArg Prod.fst way, long⟩,
      onPath_of_advance step c hP current⟩⟩
  | @wentBack left previous current link =>
    refine ⟨fun _ ha => ?_, made⟩
    obtain ⟨Q, rfl⟩ := List.getLast?_eq_some_iff.1 (hP.last.trans current)
    rw [Represents.get?_eq (M := []) hP] at link
    obtain ⟨R, rfl⟩ := List.getLast?_eq_some_iff.1 link
    have hcut := Represents.cut (Q := R ++ [previous]) (B := [left]) hP
    rw [List.getLast?_concat] at hcut
    have hstep : PathStep .back (some previous) (R ++ [previous] ++ [left]) (R ++ [previous]) := by
      rw [List.append_assoc]
      exact .back
    exact Except.ok.inj ha ▸ ⟨_, hstep, hcut⟩
  | wrote hs => exact stays (hs.onPath hP) .setValue
  | wroteChoice hs => exact stays (hs.onPath hP) .selectChoice
  | chose hs _ => exact stays (y := .ok ()) (hs.onPath hP) .selectChoice
  | restored checked =>
    exact ⟨fun _ ha => Except.ok.inj ha ▸ ⟨_, .restore, (check_ok checked).2.1⟩, made⟩
  | interrupted => exact ⟨failed, fun _ _ => .inl hP⟩

/-- **One operation** on a path. -/
theorem actsOn (r : e.Ready) (q : e.Quiet) (h : e.OnPath P) (op : Operation) : ActsOn op e P := by
  obtain ⟨x, events, e', told, heffect, hafter, hout⟩ := does r op
  obtain ⟨hok, herror⟩ := heffect.onPath h
  rw [((heffect.keeps r).1.quiet q).firstObjection] at hout
  refine ⟨fun answer ha => ?_, fun err herr hkept => ?_, ?_⟩
  · rw [hafter]
    exact hok answer (hout.symm.trans ha)
  · rw [hafter]
    refine (herror err (hout.symm.trans herr)).resolve_right ?_
    rintro ⟨hop, step, hstumbles, -⟩
    exact hkept ⟨hop, step, hstumbles⟩
  · rintro rfl step hstumbles
    have heq := advance_of_stumblesOn r hstumbles
    rw [Operation.act, Act.outcome_map, Act.after_map, Act.outcome_error heq, Act.after_error heq]
    exact ⟨rfl, onPath_of_arrival _ h (.inl hstumbles.started)⟩

/-- Going back is refused for want of a step exactly on a path of one step. -/
theorem back_refused_iff (q : e.Quiet) (h : e.OnPath P) :
    back.outcome e = .error (.script .noPreviousStep) ↔ P.length = 1 := by
  have heq := back_eq (e := e)
  induction P using List.reverseRecOn with
  | nil =>
    have hc : e.current = none := h.last.symm
    rw [hc] at heq
    rw [Act.outcome, heq]
    simp
  | append_singleton R t _ =>
    have hc : e.current = some t := h.last.symm.trans List.getLast?_concat
    have hlink : e.cameFrom.get? t = R.getLast? := Represents.get?_eq (M := []) h
    rw [hc] at heq
    dsimp only at heq
    rw [hlink] at heq
    cases R using List.reverseRecOn with
    | nil =>
      rw [Act.outcome, heq]
      simp
    | append_singleton Q s _ =>
      rw [List.getLast?_concat] at heq
      dsimp only at heq
      have q' : Quiet { e with cameFrom := e.cameFrom.erase t, current := some s } := q
      rw [Act.outcome_congr heq, outcome_report, q'.firstObjection]
      simp

/-! ## What a run does -/

/-- Every engine that is reached stands on a path. -/
theorem run_onPath (r : e.Ready) (h : e.OnPath P) (ops : List Operation) :
    ∃ P', (e.run ops).OnPath P' := by
  induction ops generalizing e P with
  | nil => exact ⟨P, h⟩
  | cons op rest ih =>
    obtain ⟨x, events, e', told, heffect, hafter, -⟩ := does r op
    obtain ⟨hok, herror⟩ := heffect.onPath h
    have hP' : ∃ P', (op.act.after e).OnPath P' := by
      rw [hafter]
      cases x with
      | ok a =>
        obtain ⟨P', -, hP'⟩ := hok a rfl
        exact ⟨P', hP'⟩
      | error err =>
        rcases herror err rfl with hP' | ⟨-, step, -, P', -, hP'⟩
        · exact ⟨P, hP'⟩
        · exact ⟨P', hP'⟩
    obtain ⟨P', hP'⟩ := hP'
    exact ih (after_keeps r op).2 hP'

/-- **The path is a stack.** After any run of a new engine whose listeners do not fail, position and links
stand for exactly one path. History, previous step and first step are read off it; going back is refused
exactly on its first step; and whatever is asked next acts on it as on a stack, but for an `advance` that
stumbles. -/
theorem run_acts_on_path (fresh : e.Fresh) (quiet : e.Quiet) (ops : List Operation) :
    ∃ P, (e.run ops).OnPath P ∧ (∀ Q, (e.run ops).OnPath Q → Q = P) ∧
      (e.run ops).history = P.dropLast ∧ (e.run ops).previous = P.dropLast.getLast? ∧
      ((e.run ops).isFirstStep = true ↔ P.length = 1) ∧
      (back.outcome (e.run ops) = .error (.script .noPreviousStep) ↔ P.length = 1) ∧
      ∀ op, ActsOn op (e.run ops) P := by
  have hstart : e.OnPath [] := by
    unfold OnPath
    rw [fresh.current, fresh.cameFrom]
    exact .nil
  obtain ⟨hk, hr⟩ := run_keeps fresh.ready ops
  obtain ⟨P, hP⟩ := run_onPath fresh.ready hstart ops
  have hq := hk.quiet quiet
  exact ⟨P, hP, fun Q hQ => Represents.unique hP hQ, hP.history_eq, hP.previous_eq, hP.isFirstStep_iff,
    back_refused_iff hq hP, fun op => actsOn hr hq hP op⟩

/-- On the second say step, going back pops it. -/
theorem relay_acts_on_path : (ofScript relay echoes).Fresh ∧ (ofScript relay echoes).Quiet ∧
    ((ofScript relay echoes).run [.start, .advance]).OnPath [1, 3] ∧
      ActsOn .back ((ofScript relay echoes).run [.start, .advance]) [1, 3] := by
  have quiet := ofScript_quiet relay echoes
  obtain ⟨P, hP, -, -, -, -, -, hacts⟩ := run_acts_on_path relay_fresh quiet [.start, .advance]
  have hpath : ((ofScript relay echoes).run [.start, .advance]).path = [1, 3] := by decide +kernel
  obtain rfl : [1, 3] = P := hpath.symm.trans hP.path_eq
  exact ⟨relay_fresh, quiet, hP, hacts .back⟩

/-- **The path of a move that fails**: the second step is pushed, although `advance` breaks off. -/
theorem census_pushed :
    (ofScript census .empty).Fresh ∧ (ofScript census .empty).Quiet ∧
      let e := (ofScript census .empty).run [.start]
      e.path = [1] ∧ (advance.outcome e).toOption = none ∧ (advance.after e).path = [1, 2] :=
  ⟨census_fresh, ofScript_quiet _ _, by decide +kernel, by decide +kernel, by decide +kernel⟩

end Engine
end Walkthrough
