/-
# Moves in closed form

What a move tells, the engine it leaves and its outcome, in one equation for each way of moving:
`start_eq`, `advance_eq` and `back_eq`. The first two hold of an engine that is `Ready`: its script is
well formed and its store belongs to it, so that the default values of the step that is reached are written
as they are. If one of them cannot be logged, the move breaks off after writing it (`landing`): `start` has
not moved the engine then, but `advance` has (`Engine.StumblesOn`).
-/

import Walkthrough.Proofs.Engine.Act
import Walkthrough.Proofs.Engine.Travel

namespace Walkthrough

namespace Engine

/-- An engine whose script is well formed and whose store belongs to the script. -/
structure Ready (e : Engine) : Prop where
  wellFormed : e.script.WellFormed
  schema : e.store.schema = e.script.schema
  typed : e.store.Typed

variable {α : Type} {e : Engine}

/-- The outcome of a way. -/
def verdict : Except Halt α → Except Error α
  | .ok a => .ok a
  | .error (.finished step) => .error (.script (.finished step))
  | .error (.looped walked) => .error (.script (.looped walked))
  | .error (.failed error) => .error error

theorem verdict_eq_ok_iff {x : Except Halt α} {a : α} : verdict x = .ok a ↔ x = .ok a := by
  rcases x with (_ | _ | _) | _ <;> simp [verdict]

/-- How a move ends: as its way does, unless a default value of the step that is reached cannot be logged. -/
def landing : Except Halt Step → Except Halt Step
  | .ok step => if step.isLoggable then .ok step else .error (.failed .tooManyDigits)
  | .error halt => .error halt

theorem landing_of_isLoggable {step : Step} (h : step.isLoggable = true) : landing (.ok step) = .ok step :=
  if_pos h

theorem landing_of_not_isLoggable {step : Step} (h : step.isLoggable = false) :
    landing (.ok step) = .error (.failed .tooManyDigits) := if_neg (by rw [h]; exact Bool.false_ne_true)

theorem landing_eq_ok_iff {way : Except Halt Step} {step : Step} :
    landing way = .ok step ↔ way = .ok step ∧ step.isLoggable = true := by
  cases way with
  | error halt => simp [landing]
  | ok t =>
    cases ht : t.isLoggable with
    | true =>
      rw [landing_of_isLoggable ht]
      exact ⟨fun h => ⟨h, Except.ok.inj h ▸ ht⟩, And.left⟩
    | false =>
      rw [landing_of_not_isLoggable ht]
      refine iff_of_false (fun h => nomatch h) ?_
      rintro ⟨⟨⟩, h⟩
      rw [ht] at h
      cases h

/-- What a way tells if it does not reach a say step. -/
def haltEvents : Except Halt α → List Event
  | .error (.finished step) => [.finished step]
  | _ => []

/-- What is told of a change of position. -/
def arrivalEvents (left : Option Int) (step : Int) : List Event :=
  match left with
  | some left => [.stepLeft left, .stepEntered (some left) step]
  | none => [.started, .stepEntered none step]

/-- What a move tells. -/
def moveEvents (left : Option Int) : Except Halt Step → List Event
  | .ok step => arrivalEvents left step.id
  | halt => haltEvents halt

/-- The engine that makes a move: starting closes the script. -/
def setOut (e : Engine) : Engine :=
  if e.current.isNone && e.script.first.isSome then { e with script := e.script.freeze } else e

@[simp] theorem current_setOut : e.setOut.current = e.current := by
  unfold setOut
  split <;> rfl

@[simp] theorem cameFrom_setOut : e.setOut.cameFrom = e.cameFrom := by
  unfold setOut
  split <;> rfl

@[simp] theorem selected_setOut : e.setOut.selected = e.selected := by
  unfold setOut
  split <;> rfl

theorem setOut_of_started {current : Int} (h : e.current = some current) : e.setOut = e := by
  unfold setOut
  rw [h]
  rfl

/-- The engine that comes to the say step that a move reached, and writes the default values of the step. It
stands there already while it writes them, unless it was not started before. -/
def arrive (e : Engine) (step : Step) : Engine :=
  { e with
    cameFrom := match e.current with
      | some left => e.linksAfter left step.id
      | none => e.cameFrom
    current := if e.isStarted || step.isLoggable then some step.id else none
    store := e.store.overwritten (Store.made step.defaults.entries) }

theorem arrive_of_isLoggable {step : Step} (h : step.isLoggable = true) : e.arrive step = { e with
    cameFrom := match e.current with
      | some left => e.linksAfter left step.id
      | none => e.cameFrom
    current := some step.id
    store := e.store.overwritten step.defaults.entries } := by
  unfold arrive
  rw [h, Bool.or_true, if_pos rfl, Step.made_defaults h]

theorem cameFrom_arrive_of_new {step : Step} (h : e.current = none) : (e.arrive step).cameFrom = e.cameFrom := by
  unfold arrive
  rw [h]

/-- The engine after the way of a move. -/
def moved (e : Engine) (way : Except Halt Step × Chain) : Engine :=
  match way.1 with
  | .ok step => (e.setOut.afterChain way.2).arrive step
  | .error _ => e.setOut.afterChain way.2

theorem moved_ok (e : Engine) (step : Step) (c : Chain) :
    e.moved (.ok step, c) = (e.setOut.afterChain c).arrive step := rfl

theorem conclude_eq (r : Except Halt α) : conclude r = report (verdict r) (haltEvents r) := by
  rcases r with (_ | _ | _) | _ <;> rfl

theorem report_error_bind {β : Type} (err : Error) (events : List Event) (f : α → Act β) :
    (report (.error err) events >>= f) e = report (.error err) events e := by
  rw [Act.bind_eq]
  induction events generalizing e with
  | nil => rfl
  | cons event rest ih =>
    rw [report_cons, report_cons]
    cases e.objection event with
    | some _ => rfl
    | none => exact ih

/-- Two events that are told at the end of an operation. -/
theorem emit_emit (first second : Event) :
    (emit first >>= fun _ => emit second) = report (.ok ()) [first, second] := by
  change _ = emit first >>= fun _ => emit second >>= fun _ => pure ()
  simp only [bind_pure_unit]

/-- The default values of the step that a move reaches fit into the store of its chain. -/
theorem Ready.fits_of_travel (r : e.Ready) {write : Bool} {step : Step} {c : Chain}
    (h : e.travel write = (.ok step, c)) : ∀ x ∈ step.defaults.entries, c.store.Fits x.1 x.2 := by
  intro x hx
  obtain ⟨-, hstep, -⟩ := travel_ok r.wellFormed h
  have hk := travel_keeps e write
  rw [h] at hk
  exact (r.wellFormed.fits hstep x hx).congr (hk.schema.trans r.schema)

/-- **Starting** an engine that was not started. -/
theorem start_eq (r : e.Ready) (h : e.current = none) :
    start e = report ((verdict (landing (e.travel true).1)).map fun _ => ())
      (moveEvents e.current (landing (e.travel true).1)) (e.moved (e.travel true)) := by
  have hs : e.isStarted = false := by rw [isStarted, h]; rfl
  unfold start
  rw [Act.bind_eq, Act.get_eq]
  simp only [hs, Bool.false_eq_true, if_false]
  cases hf : e.script.first with
  | none =>
    have ht : e.travel true = (.error (.failed (.script .noFirstStep)), e.newChain []) := by
      unfold travel departure
      simp only [h, hf, Option.toList_none]
    rw [ht]
    simp only [moved, setOut, h, hf]
    rfl
  | some first =>
    have hway : resolveStart { e with script := e.script.freeze } true first = e.travel true := by
      rw [← travel_freeze]
      exact resolveStart_eq h hf
    have hset : e.setOut = { e with script := e.script.freeze } := by
      simp only [setOut, h, hf, Option.isNone_none, Option.isSome_some, Bool.and_self, if_true]
    dsimp only
    rw [hway, Act.bind_eq, Act.set_eq, ← hset]
    dsimp only
    rw [conclude_eq]
    rcases hr : e.travel true with ⟨halt | step, c⟩
    · cases halt <;> exact report_error_bind ..
    · -- The chain found a step, so only writing its default values can still break the start off.
      have hwrite := writeAll_eq (e := e.setOut.afterChain c) (r.fits_of_travel hr)
      have hnone : (e.setOut.afterChain c).current = none := current_setOut.trans h
      simp only [emit_emit]
      change (writeAll step.defaults.entries >>= fun _ =>
        modify (fun e => { e with current := some step.id }) >>= fun _ =>
          report (.ok ()) [.started, .stepEntered none step.id]) (e.setOut.afterChain c) = _
      cases hstep : step.isLoggable with
      | true =>
        rw [step.logAll_defaults hstep, Step.made_defaults hstep] at hwrite
        rw [Act.bind_ok hwrite, Act.bind_ok (Act.modify_eq _ _), landing_of_isLoggable hstep, moved_ok,
          arrive_of_isLoggable hstep, h]
        simp only [hnone]
        rfl
      | false =>
        rw [step.logAll_defaults_error hstep] at hwrite
        rw [Act.bind_error hwrite, landing_of_not_isLoggable hstep, moved_ok, arrive, hstep, isStarted]
        simp only [hnone]
        rfl

theorem start_eq_of_started {current : Int} (h : e.current = some current) :
    start e = .error (.script (.state .alreadyStarted)) e := by
  unfold start
  rw [Act.bind_eq, Act.get_eq]
  simp only [isStarted, h, Option.isSome_some, if_true]
  rfl

/-- What a report is followed by sees the engine before it, if it does not look at what was told. -/
theorem report_then {β : Type} (g : Engine → β) (hg : ∀ e event, g (noting e event) = g e) (a : α)
    (events : List Event) :
    (report (.ok a) events >>= fun _ => get >>= fun e => pure (g e)) e = report (.ok (g e)) events e := by
  rw [Act.bind_eq]
  induction events generalizing e with
  | nil => rfl
  | cons event rest ih =>
    rw [report_cons, report_cons]
    cases e.objection event with
    | some _ => rfl
    | none => rw [ih, hg]

theorem commit_eq {left : Int} {step : Step} (hc : e.current = some left)
    (h : ∀ x ∈ step.defaults.entries, e.store.Fits x.1 x.2) :
    commit left step e = report ((verdict (landing (.ok step))).map fun _ => ())
      (moveEvents (some left) (landing (.ok step))) (e.arrive step) := by
  have hwrite := writeAll_eq (e := { e with cameFrom := e.linksAfter left step.id, current := some step.id }) h
  have harrive : e.arrive step = { e with
      cameFrom := e.linksAfter left step.id
      current := some step.id
      store := e.store.overwritten (Store.made step.defaults.entries) } := by
    unfold arrive isStarted
    rw [hc, Option.isSome_some, Bool.true_or, if_pos rfl]
  unfold commit
  simp only [emit_emit]
  rw [Act.bind_ok (Act.modify_eq _ _), harrive]
  cases hstep : step.isLoggable with
  | true =>
    rw [step.logAll_defaults hstep] at hwrite
    rw [Act.bind_ok hwrite, landing_of_isLoggable hstep]
    rfl
  | false =>
    rw [step.logAll_defaults_error hstep] at hwrite
    rw [Act.bind_error hwrite, landing_of_not_isLoggable hstep]
    rfl

/-- **Going on**, also from before the first step. -/
theorem advance_eq (r : e.Ready) :
    advance e = report ((verdict (landing (e.travel true).1)).map Step.id)
      (moveEvents e.current (landing (e.travel true).1)) (e.moved (e.travel true)) := by
  unfold advance
  rw [Act.bind_eq, Act.get_eq]
  cases hc : e.current with
  | none =>
    simp only [hc]
    rw [Act.bind_eq, start_eq r hc, hc, ← Act.bind_eq]
    rcases hr : e.travel true with ⟨halt | step, c⟩
    · cases halt <;> exact report_error_bind ..
    · cases hstep : step.isLoggable with
      | true =>
        rw [landing_of_isLoggable hstep]
        refine (report_then (fun e => e.current.getD 0) (fun _ _ => rfl) () _).trans ?_
        rw [moved_ok, arrive_of_isLoggable hstep]
        rfl
      | false =>
        rw [landing_of_not_isLoggable hstep]
        exact report_error_bind ..
  | some current =>
    have hset : e.setOut = e := setOut_of_started hc
    simp only [hc]
    rw [resolve_eq hc, Act.bind_eq, Act.set_eq]
    dsimp only
    rw [conclude_eq]
    rcases hr : e.travel true with ⟨halt | step, c⟩
    · rw [moved, hset]
      cases halt <;> exact report_error_bind ..
    · have hfit := r.fits_of_travel hr
      have harrive := commit_eq (e := e.afterChain c) hc hfit
      change (commit current step >>= fun _ => pure step.id) (e.afterChain c) = _
      rw [Act.bind_eq, harrive, moved_ok, hset, ← Act.bind_eq]
      cases hstep : step.isLoggable with
      | true =>
        rw [landing_of_isLoggable hstep]
        exact report_then (fun _ => step.id) (fun _ _ => rfl) () _
      | false =>
        rw [landing_of_not_isLoggable hstep]
        exact report_error_bind ..

/-- **An engine stumbles** if `advance` brings it to a step with a default value that cannot be logged: it stands
there, although the move breaks off. -/
structure StumblesOn (e : Engine) (step : Step) : Prop where
  started : e.isStarted = true
  reached : (e.travel true).1 = .ok step
  long : step.isLoggable = false

/-- An engine stumbles on some step. -/
def Stumbles (e : Engine) : Prop := ∃ step, e.StumblesOn step

theorem StumblesOn.unique {step step' : Step} (h : e.StumblesOn step) (h' : e.StumblesOn step') : step' = step :=
  Except.ok.inj (h'.reached.symm.trans h.reached)

/-- Where `advance` stumbles, it has moved and breaks off, and listeners are not told anything. -/
theorem advance_of_stumblesOn (r : e.Ready) {step : Step} (h : e.StumblesOn step) :
    advance e = .error .tooManyDigits (e.moved (.ok step, (e.travel true).2)) := by
  have heq := advance_eq r
  rw [h.reached, landing_of_not_isLoggable h.long] at heq
  have hway : e.travel true = (.ok step, (e.travel true).2) := Prod.ext h.reached rfl
  rw [heq, ← hway]
  rfl

/-- **Going back.** -/
theorem back_eq : back e = match e.current with
    | none => .error (.script (.state .notStarted)) e
    | some left =>
      match e.cameFrom.get? left with
      | none => .error (.script .noPreviousStep) e
      | some previous => report (.ok previous) (arrivalEvents (some left) previous)
          { e with cameFrom := e.cameFrom.erase left, current := some previous } := by
  unfold back
  rw [Act.bind_eq, Act.get_eq]
  cases hc : e.current with
  | none =>
    simp only [hc]
    rfl
  | some left =>
    simp only [hc]
    cases hl : e.cameFrom.get? left with
    | none => rfl
    | some previous => rfl

end Engine
end Walkthrough
