/-
# What a move has written when it ends

`start` and `advance` run a chain of call steps that write as they go. If the chain ends with an error, the
engine stays where it is, but what was written stays written: the default values and results of the call
steps that were completed, in order, and what the step that broke off had written. If it ends at a say step,
the default values of that step are written as well, and the engine stands there, also if it was started
before and one of them cannot be logged (`move_writes`). Those values fit into the store, so that writing them
breaks off for no other reason (`Course.writeAll_defaults`).
-/

import Walkthrough.Proofs.Engine.Course
import Walkthrough.Proofs.Engine.Run

namespace Walkthrough
namespace Engine

variable {e e' : Engine} {op : Operation}

/-- **The course of a move**: the call steps that are completed, the one that breaks off, and the say step
that is reached or the error. An engine that was started is not started again. -/
inductive Course (e : Engine) (op : Operation) :
    List Chain.Completion → Option Chain.Begun → Except Error Step → Prop
  | again (start : op = .start) (started : e.isStarted = true) :
      Course e op [] none (.error (.script (.state .alreadyStarted)))
  | stayed {halt : Halt} (can : op = .start → e.isStarted = false) (departure : e.departure = .error halt) :
      Course e op [] none (verdict (.error halt))
  | left {step : Step} {xs : List Chain.Completion} {begun : Option Chain.Begun} {way : Except Halt Step}
      {d : Chain} (can : op = .start → e.isStarted = false) (departure : e.departure = .ok step)
      (chain : Chain.Course e.script [] step (e.newChain e.current.toList) xs begun way d) :
      Course e op xs begun (verdict way)

/-- From one engine to another, these values were written in this order, and nothing else. -/
structure Wrote (e e' : Engine) (writes : List (Int × Value)) : Prop where
  store : e'.store = e.store.overwritten writes
  others : ∀ id, (∀ w ∈ writes, w.1 ≠ id) → e'.store.values.get? id = e.store.values.get? id

theorem wrote_of_store {writes : List (Int × Value)} (h : e'.store = e.store.overwritten writes) :
    e.Wrote e' writes :=
  ⟨h, fun id hid => by rw [h, Store.get?_overwritten hid]⟩

/-- The way of a move has a course, which tells what the way has written. -/
theorem course_of_travel (r : e.Ready) (can : op = .start → e.isStarted = false) :
    ∃ xs begun, e.Course op xs begun (verdict (e.travel true).1) ∧
      (e.travel true).2.store = e.store.overwritten (Chain.courseWrites xs begun) ∧
      ∀ t, (e.travel true).1 = .ok t → begun = none := by
  unfold travel
  cases hd : e.departure with
  | error halt => exact ⟨[], none, .stayed can hd, rfl, fun _ _ => rfl⟩
  | ok step =>
    obtain ⟨id, hstep, -⟩ := departure_ok hd
    obtain rfl := r.wellFormed.keyed hstep
    obtain ⟨xs, begun, hcourse⟩ := Chain.run_course r.wellFormed (c := e.newChain e.current.toList)
      List.nodup_nil (List.nil_subset _) (Nat.le_refl _) hstep r.schema
    exact ⟨xs, begun, .left can hd hcourse, hcourse.store_eq r.wellFormed hstep r.schema,
      fun _ ht => (hcourse.reaches r.wellFormed hstep ht).1⟩

/-- **The default values of a step that is reached** can be written, whatever was written before, if they can be
logged. -/
theorem Course.writeAll_defaults (r : e.Ready) {xs : List Chain.Completion} {begun : Option Chain.Begun}
    {step : Step} (h : e.Course op xs begun (.ok step)) (schema : e'.store.schema = e.store.schema) :
    (writeAll step.defaults.entries).outcome e' = Store.logAll step.defaults.entries := by
  have hstep : e.script.step? step.id = some step := by
    generalize hend : Except.ok step = result at h
    cases h with
    | again => cases hend
    | @stayed halt => cases halt <;> cases hend
    | left can departure chain =>
      obtain ⟨id, hfirst, -⟩ := departure_ok departure
      obtain rfl := r.wellFormed.keyed hfirst
      exact (chain.reaches r.wellFormed hfirst (verdict_eq_ok_iff.1 hend.symm)).2
  have hfits : ∀ x ∈ step.defaults.entries, e'.store.Fits x.1 x.2 := fun x hx =>
    (r.wellFormed.fits hstep x hx).congr (schema.trans r.schema)
  exact outcome_writeAll hfits

/-- A move that is possible leaves the engine that its way leaves, whatever listeners do. -/
theorem after_move (r : e.Ready) (move : op = .start ∨ op = .advance) (can : op = .start → e.isStarted = false) :
    ∃ told, op.act.after e =
      { e.moved (e.travel true) with emitted := (e.moved (e.travel true)).emitted ++ told } := by
  rcases move with rfl | rfl
  · have hc : e.current = none := by simpa [isStarted] using can rfl
    have hact : Operation.act .start = (fun _ => none) <$> start := rfl
    rw [hact, Act.after_map, Act.after_congr (start_eq r hc)]
    exact after_report _ _ _
  · have hact : Operation.act .advance = some <$> advance := rfl
    rw [hact, Act.after_map, Act.after_congr (advance_eq r)]
    exact after_report _ _ _

/-- A move that is possible ends as its landing does, and leaves the engine that its way leaves. -/
theorem move_eq (r : e.Ready) (q : e.Quiet) (move : op = .start ∨ op = .advance)
    (can : op = .start → e.isStarted = false) :
    (∃ answer : Step → Option Int,
      op.act.outcome e = (verdict (landing (e.travel true).1)).map answer) ∧
    ∃ told, op.act.after e =
      { e.moved (e.travel true) with emitted := (e.moved (e.travel true)).emitted ++ told } := by
  have quiet := (moved_keeps r true).1.quiet q
  refine ⟨?_, after_move r move can⟩
  rcases move with rfl | rfl
  · have hc : e.current = none := by simpa [isStarted] using can rfl
    have hact : Operation.act .start = (fun _ => none) <$> start := rfl
    rw [hact, Act.outcome_map, Act.outcome_congr (start_eq r hc), outcome_report, quiet.firstObjection]
    refine ⟨fun _ => none, ?_⟩
    cases verdict (landing (e.travel true).1) <;> rfl
  · have hact : Operation.act .advance = some <$> advance := rfl
    rw [hact, Act.outcome_map, Act.outcome_congr (advance_eq r), outcome_report, quiet.firstObjection]
    refine ⟨fun step => some step.id, ?_⟩
    cases verdict (landing (e.travel true).1) <;> rfl

/-- **A move ends before a say step**: the engine stays where it is, and what was written stays written. -/
structure Halts (e : Engine) (op : Operation) (err : Error) (e' : Engine) : Prop where
  current : e'.current = e.current
  cameFrom : e'.cameFrom = e.cameFrom
  selected : e'.selected = e.selected
  wrote : ∃ xs begun, e.Course op xs begun (.error err) ∧ e.Wrote e' (Chain.courseWrites xs begun)

/-- **A move comes to a say step**, whose default values it writes up to the first that cannot be logged. The
engine stands there, unless it was not started and one of them cannot be logged. -/
structure Lands (e : Engine) (op : Operation) (step : Step) (e' : Engine) : Prop where
  current : e'.current = if e.isStarted || step.isLoggable then some step.id else none
  cameFrom : e.current = none → e'.cameFrom = e.cameFrom
  selected : e'.selected = e.selected
  wrote : ∃ xs, e.Course op xs none (.ok step) ∧
    e.Wrote e' (xs.flatMap Chain.Completion.writes ++ Store.made step.defaults.entries)

/-- The engine that a move leaves which comes to a say step. -/
theorem lands_of_travel {step : Step} {c : Chain} {xs : List Chain.Completion} (told : List Event)
    (course : e.Course op xs none (.ok step)) (store : c.store = e.store.overwritten (Chain.courseWrites xs none)) :
    e.Lands op step { e.moved (.ok step, c) with emitted := (e.moved (.ok step, c)).emitted ++ told } where
  current := by
    change (if e.setOut.isStarted || step.isLoggable then some step.id else none) = _
    rw [isStarted, current_setOut, isStarted]
  cameFrom hc := by
    have hnew : (e.setOut.afterChain c).current = none := current_setOut.trans hc
    exact (cameFrom_arrive_of_new hnew).trans cameFrom_setOut
  selected := selected_setOut
  wrote := by
    refine ⟨xs, course, wrote_of_store ?_⟩
    have hwrites : Chain.courseWrites xs none = xs.flatMap Chain.Completion.writes := List.append_nil _
    rw [Store.overwritten_append, ← hwrites, ← store]
    rfl

/-- **One move** of an engine that is ready for it. -/
theorem move_course (r : e.Ready) (q : e.Quiet) (move : op = .start ∨ op = .advance) :
    match op.act.outcome e with
    | .error err => e.Halts op err (op.act.after e) ∨
      err = .tooManyDigits ∧ ∃ step, e.Lands op step (op.act.after e) ∧ step.isLoggable = false
    | .ok _ => ∃ step, e.Lands op step (op.act.after e) ∧ step.isLoggable = true := by
  by_cases hagain : op = .start ∧ e.isStarted = true
  · obtain ⟨rfl, hstarted⟩ := hagain
    obtain ⟨current, hc⟩ := Option.isSome_iff_exists.1 hstarted
    have hact : Operation.act .start = (fun _ => none) <$> start := rfl
    rw [hact, Act.outcome_map, Act.outcome_error (start_eq_of_started hc), Act.after_map,
      Act.after_error (start_eq_of_started hc)]
    exact Or.inl ⟨rfl, rfl, rfl, [], none, .again rfl hstarted, wrote_of_store rfl⟩
  · have can : op = .start → e.isStarted = false := fun hop => by
      simpa using fun hs => hagain ⟨hop, hs⟩
    obtain ⟨xs, begun, hcourse, hstore, hnone⟩ := course_of_travel r can
    obtain ⟨⟨answer, hout⟩, told, hafter⟩ := move_eq r q move can
    rw [hout, hafter]
    rcases hway : e.travel true with ⟨halt | step, c⟩
    · rw [hway] at hcourse hstore
      cases hv : verdict (α := Step) (.error halt) with
      | error err =>
        rw [hv] at hcourse
        simp only [landing, hv]
        exact Or.inl ⟨current_setOut, cameFrom_setOut, selected_setOut, xs, begun, hcourse, wrote_of_store hstore⟩
      | ok step => cases halt <;> cases hv
    · rw [hway] at hcourse hstore hnone
      obtain rfl := hnone step rfl
      have hlands := lands_of_travel told hcourse hstore
      cases hlog : step.isLoggable with
      | true =>
        rw [landing_of_isLoggable hlog]
        exact ⟨step, hlands, hlog⟩
      | false =>
        rw [landing_of_not_isLoggable hlog]
        exact Or.inr ⟨rfl, step, hlands, hlog⟩

/-- **What a move has written when it ends.** In every state that is reached and whatever the functions give,
where listeners do not fail: a move that does not come to a say step leaves position, links and choices as they
are, and exactly the values of its course are written, in the order of execution: the default values and the
results of the call steps that were completed, and what the one that broke off had written. A move that comes
to a say step writes the default values of the step over that, and breaks off right after the first that cannot
be logged, for no other reason. An engine that was started stands on the step even so, and one that was not is
still not started. -/
theorem move_writes {e₀ : Engine} (fresh : e₀.Fresh) (quiet : e₀.Quiet) (ops : List Operation)
    (move : op = .start ∨ op = .advance) :
    let e := e₀.run ops
    let e' := op.act.after e
    (match op.act.outcome e with
    | .error err => e.Halts op err e' ∨ err = .tooManyDigits ∧ ∃ step, e.Lands op step e' ∧ step.isLoggable = false
    | .ok _ => ∃ step, e.Lands op step e' ∧ step.isLoggable = true) ∧
    ∀ step, e.Lands op step e' → ∀ e'' : Engine, e''.store.schema = e.store.schema →
      (writeAll step.defaults.entries).outcome e'' = Store.logAll step.defaults.entries := by
  intro e e'
  obtain ⟨hk, hr⟩ := run_keeps fresh.ready ops
  refine ⟨move_course hr (hk.quiet quiet) move, fun step lands e'' schema => ?_⟩
  obtain ⟨xs, hcourse, -⟩ := lands.wrote
  exact hcourse.writeAll_defaults hr schema

/-- Two call steps in a row, the second of which calls a function that is not there. -/
def brokenRelay : Script :=
  let up := blankSheet.withSay "Up" { id := .int 1, first := true, rules := [(none, .int 2)] }
  let call := up.withCall
    { name := "echo", result := some 1, values := .ofList [("text", .text "y")] }
    { id := .int 2, defaults := .ofList [(1, .text "x")], rules := [(none, .int 3)] }
  call.withCall { name := "none", result := some 1 } { id := .int 3, rules := [(none, .int 1)] }

theorem brokenRelay_fresh : (ofScript brokenRelay echoes).Fresh :=
  ofScript_fresh (((blankSheet_built.withSay _ _).withCall _ _).withCall _ _) echoes

/-- The refusal with which an operation ends, if it does. -/
def refusal? {α : Type} : Except Error α → Option ScriptError
  | .error (.script cause) => some cause
  | _ => none

/-- The first call step is completed and what it wrote stays, although the move fails at the second. -/
theorem brokenRelay_move_writes :
    let e := (ofScript brokenRelay echoes).run [.start]
    (ofScript brokenRelay echoes).Fresh ∧ (ofScript brokenRelay echoes).Quiet ∧
      (advance.after e).store.value 1 = .text "y" ∧
        ∃ err, advance.outcome e = .error err ∧ e.Halts .advance err (advance.after e) := by
  have hmove := move_writes brokenRelay_fresh (ofScript_quiet brokenRelay echoes) [.start] (.inr rfl)
  have hact : Operation.act .advance = some <$> advance := rfl
  have hfails : (refusal? (advance.outcome ((ofScript brokenRelay echoes).run [.start]))).isSome = true := by
    decide +kernel
  have hvalue : (advance.after ((ofScript brokenRelay echoes).run [.start])).store.value 1 = .text "y" :=
    Value.eq_of_same (by decide +kernel) rfl
  generalize (ofScript brokenRelay echoes).run [.start] = e at hmove hfails hvalue
  refine ⟨brokenRelay_fresh, ofScript_quiet _ _, hvalue, ?_⟩
  dsimp only at hmove
  rw [hact, Act.outcome_map, Act.after_map] at hmove
  obtain ⟨hmove, -⟩ := hmove
  cases hout : advance.outcome e with
  | ok t => rw [hout] at hfails; cases hfails
  | error err =>
    rw [hout] at hmove hfails
    rcases hmove with hhalts | ⟨rfl, -⟩
    · exact ⟨err, rfl, hhalts⟩
    · cases hfails

/-- **A move that fails has moved the engine**: the default value of the second step cannot be logged. -/
theorem census_entered :
    let e := (ofScript census .empty).run [.start]
    (ofScript census .empty).Fresh ∧ (ofScript census .empty).Quiet ∧ e.current = some 1 ∧
      (advance.outcome e).toOption = none ∧ (advance.after e).current = some 2 :=
  ⟨census_fresh, ofScript_quiet _ _, by decide +kernel, by decide +kernel, by decide +kernel⟩

end Engine
end Walkthrough
