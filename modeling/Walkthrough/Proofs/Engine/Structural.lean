/-
# Scripts without problems do not go wrong

Two errors say that a script is wrong: it has no first step, or a step that is looked up is none of its
steps (`Error.isStructural`). An engine looks up the first step, the step on which it stands, and the
targets of rules. If the script has no problems, the first step and all targets are steps (`Script.Closed`),
and an engine stands on steps of the script only, also after a snapshot was restored (`Stands`). So no
operation ends in such an error, as long as the functions of the host fail in their own way.

The same search that finds the problems of a script says which say steps no run reaches. It is closed under
the transitions of the script, and a path grows by transitions only, unless another one is restored.
-/

import Walkthrough.Proofs.Engine.Errors
import Walkthrough.Proofs.Engine.Standing
import Walkthrough.Proofs.Script.Reachability

namespace Walkthrough

/-- Whether an error says that the script is wrong. -/
def Error.isStructural : Error → Bool
  | script (.definition _) => true
  | script .noFirstStep => true
  | _ => false

/-- A result is tame if it is no structural error. -/
abbrev Tame {α : Type} (x : Except Error α) : Prop := FailsOnly (fun err => err.isStructural = false) x

theorem Error.isStructural_of_isLocal {err : Error} (h : err.isLocal = true) : err.isStructural = false := by
  cases err with
  | failure cause => rfl
  | script cause => cases cause <;> first | rfl | cases h

/-- Raising a refusal whose message cannot be written does not say that the script is wrong, either. -/
theorem Error.isStructural_raised {cause : ScriptError} (h : (Error.script cause).isStructural = false) :
    (Error.raised cause).isStructural = false := by
  obtain heq | heq := Error.raised_eq_or cause
  · exact heq ▸ h
  · rw [heq]
    rfl

/-- Whether an error says that the position of saved state does not fit the script, or that its numbers are too
long to say so. -/
def Error.isMisfit : Error → Bool
  | script (.history _) => true
  | script (.mismatch _) => true
  | script (.unknownChoice _ _) => true
  | failure (.usage .tooManyDigits) => true
  | _ => false

theorem Error.isMisfit_raised {cause : ScriptError} (h : (Error.script cause).isMisfit = true) :
    (Error.raised cause).isMisfit = true := by
  obtain heq | heq := Error.raised_eq_or cause
  · exact heq ▸ h
  · rw [heq]
    rfl

theorem Error.isStructural_of_isMisfit {err : Error} (h : err.isMisfit = true) : err.isStructural = false := by
  cases err with
  | failure cause => rfl
  | script cause => cases cause <;> first | rfl | cases h

/-- Errors about values do not say that the script is wrong. -/
theorem FailsOnly.tame {α : Type} {x : Except Error α} (h : Local x) : Tame x :=
  h.mono fun _ => Error.isStructural_of_isLocal

/-- No function breaks off with a refusal of this library. -/
def Registry.Foreign (r : Registry) : Prop :=
  ∀ e ∈ r.functions.entries, ∀ earlier arguments err,
    e.2.2.run earlier arguments = .error err → err.isScriptError = false

/-! ## Chains -/

namespace Chain

variable {write : Bool} {script : Script} {c : Chain} {step : Step}

/-- Functions that fail in their own way do not say that the script is wrong, either. -/
theorem callFunction_tame (h : c.registry.Foreign) (write : Bool) (f : FunctionCall) :
    Tame (callFunction write f c).1 := by
  intro err herr
  rcases callFunction_error herr with hreading | ⟨arguments, registered, g, -, -, hg, hrun⟩
  · exact Error.isStructural_of_isLocal (Error.isLocal_of_isReading hreading)
  · have hforeign := h _ (OrderedMap.get?_eq_some_iff.1 hg) _ _ _ hrun
    cases err with
    | script cause => cases hforeign
    | failure cause => rfl

/-- A rule of a closed script leads to a step. -/
theorem onward_tame (closed : script.Closed) {id : Int} (hstep : script.step? id = some step) (c : Chain)
    (choice : Option Choice) : Tame (Engine.verdict (c.onward script step choice)) := by
  have hrules := (c.firstTarget_reads step.rules).toLocal.tame
  unfold onward
  split
  · exact .error rfl
  split
  · next err herr => exact .error (hrules err herr)
  · exact .error rfl
  · next next hnext =>
    obtain ⟨t, ht⟩ := OrderedMap.contains_iff.1 (closed.target hstep _ (mem_of_firstTarget hnext))
    rw [target_eq_ok_iff.2 ht]
    exact .ok _

theorem runStep_tame (closed : script.Closed) {id : Int} (hstep : script.step? id = some step)
    (h : c.registry.Foreign) (f : FunctionCall) :
    Tame (Engine.verdict (runStep write script step f c).1) := by
  have hdefaults := (putDefaults_reads write step.defaults.entries c).toLocal.tame
  have hkeeps := putDefaults_keeps write step.defaults.entries c
  rw [runStep_eq]
  split
  · next err c' hc =>
    rw [hc] at hdefaults
    exact .error (hdefaults err rfl)
  · next c' hc =>
    rw [hc] at hkeeps
    have h' : c'.registry.Foreign := by rwa [Registry.Foreign, hkeeps.functions]
    have hcall := callFunction_tame h' write f
    unfold pass
    split
    · exact .error rfl
    split
    · next err c'' hc =>
      rw [hc] at hcall
      exact .error (hcall err rfl)
    · exact onward_tame closed hstep _ none

/-- **A chain of a closed script** does not end in a structural error. -/
theorem run_tame (closed : script.Closed) {fuel : Nat} : ∀ {done : List Int} {step : Step} {c : Chain}
    {id : Int}, script.step? id = some step → c.registry.Foreign →
      Tame (Engine.verdict (run write script fuel done step c).1) := by
  induction fuel with
  | zero =>
    intro done step c id hstep h
    unfold run
    split
    · exact .ok _
    · dsimp only
      split <;> exact .error rfl
  | succ fuel ih =>
    intro done step c id hstep h
    unfold run
    split
    · exact .ok _
    · next f _ =>
      dsimp only
      split
      · exact .error rfl
      · have h' : { c with walked := c.walked ++ [step.id] }.registry.Foreign := h
        have hrun : Tame (Engine.verdict
            (runStep write script step f { c with walked := c.walked ++ [step.id] }).1) :=
          runStep_tame closed hstep h' f
        have hkeeps := runStep_keeps write script step f { c with walked := c.walked ++ [step.id] }
        split
        · next next c' hc =>
          rw [hc] at hkeeps
          obtain ⟨id', -, hnext⟩ := runStep_ok hc
          exact ih hnext (by rwa [Registry.Foreign, hkeeps.functions])
        · next halt c' hc => rwa [hc] at hrun

end Chain

/-! ## Operations -/

/-- What a caller can ask of an engine, looking ahead included. -/
inductive Request where
  | perform (op : Operation)
  | nextStep

namespace Request

/-- Does what is asked. -/
def act : Request → Act (Option Int)
  | perform op => op.act
  | nextStep => Engine.peek

/-- Whether a request puts saved state in place of the state. -/
def isRestore : Request → Bool
  | perform op => op.isRestore
  | nextStep => false

end Request

namespace Engine

variable {e e' : Engine} {P : List Int} {s : Snapshot}

/-- **A run** of requests, one after the other, whatever comes of each. -/
def serve (e : Engine) (requests : List Request) : Engine := requests.foldl (fun e r => r.act.after e) e

/-- An engine that cannot go wrong structurally: its script is closed, it stands on a step of the script, and
its functions fail in their own way. -/
structure Safe (e : Engine) : Prop where
  closed : e.script.Closed
  foreign : e.registry.Foreign
  current : ∀ current, e.current = some current → e.script.hasStep current = true

/-- Listeners object in their own way, too. -/
theorem report_tame {α : Type} {x : Except Error α} (hx : Tame x) (events : List Event) (e : Engine) :
    Tame ((report x events).outcome e) := by
  rw [outcome_report]
  split
  · next err herr =>
    obtain ⟨message, rfl⟩ := host_of_firstObjection herr
    exact .error rfl
  · exact hx

theorem Safe.departure_tame (h : e.Safe) : Tame (verdict e.departure) := by
  unfold departure
  split
  · obtain ⟨first, hfirst, hstep⟩ := h.closed.first
    obtain ⟨t, ht⟩ := OrderedMap.contains_iff.1 hstep
    rw [hfirst]
    dsimp only
    rw [Chain.target_eq_ok_iff.2 ht]
    exact .ok _
  · next current hc =>
    obtain ⟨t, ht⟩ := OrderedMap.contains_iff.1 (h.current current hc)
    rw [Chain.target_eq_ok_iff.2 ht]
    dsimp only
    split
    · exact .error rfl
    · exact Chain.onward_tame h.closed ht _ _

/-- **The way of a move** does not end in a structural error. -/
theorem Safe.travel_tame (h : e.Safe) (write : Bool) : Tame (verdict (e.travel write).1) := by
  have hdeparture := h.departure_tame
  unfold travel
  split
  · next halt hd => rwa [hd] at hdeparture
  · next step hd =>
    obtain ⟨id, hstep, -⟩ := departure_ok hd
    exact Chain.run_tame h.closed hstep h.foreign

/-- Neither do the values that are written where it comes to a say step. -/
theorem Safe.landing_tame (h : e.Safe) (write : Bool) : Tame (verdict (landing (e.travel write).1)) := by
  have htravel := h.travel_tame write
  cases hway : (e.travel write).1 with
  | error halt => rwa [hway] at htravel
  | ok step =>
    cases hstep : step.isLoggable with
    | true =>
      rw [landing_of_isLoggable hstep]
      exact .ok _
    | false =>
      rw [landing_of_not_isLoggable hstep]
      exact .error rfl

theorem setValue_tame (id : Int) (v : Value) (e : Engine) : Tame ((setValue id v).outcome e) := by
  have heq := setValue_eq id v e
  have hconvert := (e.store.convert_reads id v).toLocal.tame
  split at heq
  · rw [Act.outcome_error heq]
    exact .error (Error.isStructural_raised rfl)
  split at heq
  · next err herr =>
    rw [Act.outcome_error heq]
    exact .error (hconvert err herr)
  next w _ =>
  have hlog := (Store.log_reads id w).toLocal.tame
  split at heq
  · next err herr =>
    rw [Act.outcome_error heq]
    exact .error (hlog err herr)
  · rw [Act.outcome_congr heq]
    exact report_tame (.ok _) _ _

theorem setValues_tame (es : List (Int × Value)) (e : Engine) : Tame ((setValues es).outcome e) := by
  induction es generalizing e with
  | nil => exact .ok _
  | cons x rest ih =>
    have hx := setValue_tame x.1 x.2 e
    unfold setValues
    cases h : setValue x.1 x.2 e with
    | ok a e' =>
      rw [Act.outcome_congr (Act.bind_ok h)]
      exact ih e'
    | error err e' =>
      rw [Act.outcome_error h] at hx
      rw [Act.outcome_error (Act.bind_error h)]
      exact hx

theorem selectChoice_tame (step choice : Int) (e : Engine) : Tame ((selectChoice step choice).outcome e) := by
  have heq := selectChoice_eq step choice e
  split at heq
  · rw [Act.outcome_error heq]
    exact .error rfl
  split at heq
  · rw [Act.outcome_error heq]
    exact .error (Error.isStructural_raised rfl)
  split at heq
  · rw [Act.outcome_error heq]
    exact .error (Error.isStructural_raised rfl)
  split at heq
  · rw [Act.outcome_ok heq]
    exact .ok _
  next c _ _ =>
  have hvalues := setValues_tame c.values.entries e
  split at heq
  · next err e' he =>
    rw [Act.outcome_error he] at hvalues
    rw [Act.outcome_error heq]
    exact hvalues
  · rw [Act.outcome_congr heq]
    exact report_tame (.ok _) _ _

/-! ## Restoring -/

/-- A result that is an error only if saved state does not fit the script. -/
abbrev Misfits {α : Type} (x : Except Error α) : Prop := FailsOnly (fun err => err.isMisfit = true) x

theorem checkedHistory_misfits (script : Script) (s : Snapshot) : Misfits (checkedHistory script s) := by
  unfold checkedHistory
  split
  · exact .error (Error.isMisfit_raised rfl)
  split
  · split
    · exact .error (Error.isMisfit_raised rfl)
    · next current _ _ =>
      generalize (if s.history.isEmpty then [current] else s.history) = history
      dsimp only
      split
      · exact .error (Error.isMisfit_raised rfl)
      · exact .ok _
  · split
    · exact .ok _
    · exact .error (Error.isMisfit_raised rfl)

theorem checkedLinks_misfits (script : Script) (history : List Int) :
    ∀ (previous : Option Int) (links : OrderedMap Int Int),
      Misfits (checkedLinks script previous links history) := by
  induction history with
  | nil => exact fun _ _ => .ok _
  | cons step rest ih =>
    intro previous links
    unfold checkedLinks
    split
    · exact .error (Error.isMisfit_raised rfl)
    split
    · exact ih _ _
    · split
      · exact ih _ _
      · exact .error (Error.isMisfit_raised rfl)

theorem checkedChoices_misfits (script : Script) (es : List (Int × Int)) :
    ∀ selected : OrderedMap Int Int, Misfits (checkedChoices script selected es) := by
  induction es with
  | nil => exact fun _ => .ok _
  | cons x rest ih =>
    intro selected
    unfold checkedChoices
    split
    · exact .error (Error.isMisfit_raised rfl)
    · exact ih _

theorem checkedSaved_tame (store : Store) (es : List (Int × Value)) :
    ∀ values : OrderedMap Int Value, Tame (checkedSaved store values es) := by
  induction es with
  | nil => exact fun _ => .ok _
  | cons x rest ih =>
    intro values
    have hconvert := (store.convert_reads x.1 x.2).toLocal.tame
    unfold checkedSaved
    split
    · split
      · exact ih _
      · exact .error rfl
    split
    · exact ih _
    · exact .error (Error.isStructural_raised rfl)
    · next err _ herr => exact .error (hconvert err herr)

/-- **Saved state that is refused** does not fit the script in its position, or in one of its values. -/
theorem check_error {e : Engine} {s : Snapshot} {err : Error} (h : e.check s = .error err) :
    err.isMisfit = true ∨ checkedSaved e.store .empty s.values.entries = .error err := by
  have position : ∀ {α : Type} {x : Except Error α}, Misfits x → FailsOnly (fun err => err.isMisfit = true ∨
      checkedSaved e.store .empty s.values.entries = .error err) x := fun hx => hx.mono fun _ => .inl
  refine ((position (checkedHistory_misfits e.script s)).bind fun _ _ =>
    (position (checkedLinks_misfits e.script _ _ _)).bind fun _ _ =>
      (position (checkedChoices_misfits e.script _ _)).bind fun _ _ => FailsOnly.bind ?_ fun _ _ => .ok _) err h
  exact fun _ hvalues => .inr hvalues

/-- The script is not to blame for it. -/
theorem check_tame (e : Engine) (s : Snapshot) : Tame (e.check s) := fun err h =>
  (check_error h).elim Error.isStructural_of_isMisfit (checkedSaved_tame e.store _ _ err)

/-! ## Requests -/

/-- **No request** of a safe engine ends in a structural error. -/
theorem Safe.request_tame (h : e.Safe) (r : e.Ready) (request : Request) : Tame (request.act.outcome e) := by
  cases request with
  | nextStep =>
    change Tame (peek.outcome e)
    rw [Act.outcome_ok peek_eq]
    exact .ok _
  | perform op =>
    change Tame (op.act.outcome e)
    cases op with
    | start =>
      rw [Operation.act, Act.outcome_map]
      refine FailsOnly.map _ ?_
      cases hc : e.current with
      | none =>
        rw [Act.outcome_congr (start_eq r hc)]
        exact report_tame ((h.landing_tame true).map _) _ _
      | some current =>
        rw [Act.outcome_error (start_eq_of_started hc)]
        exact .error rfl
    | advance =>
      rw [Operation.act, Act.outcome_map, Act.outcome_congr (advance_eq r)]
      exact (report_tame ((h.landing_tame true).map _) _ _).map _
    | back =>
      rw [Operation.act, Act.outcome_map]
      refine FailsOnly.map _ ?_
      have heq := back_eq (e := e)
      split at heq
      · rw [Act.outcome_error heq]
        exact .error rfl
      split at heq
      · rw [Act.outcome_error heq]
        exact .error rfl
      · rw [Act.outcome_congr heq]
        exact report_tame (.ok _) _ _
    | selectChoice step choice =>
      rw [Operation.act, Act.outcome_map]
      exact (selectChoice_tame step choice e).map _
    | setValue id v =>
      rw [Operation.act, Act.outcome_map]
      exact (setValue_tame id v e).map _
    | restore s =>
      rw [Operation.act, Act.outcome_map]
      refine FailsOnly.map _ ?_
      have hcheck := e.check_tame s
      have heq := restore_eq (e := e) (s := s)
      split at heq
      · next err herr =>
        rw [Act.outcome_error heq]
        exact .error (hcheck err herr)
      next r _ =>
      split at heq
      · next err herr =>
        obtain ⟨rfl, -⟩ := Store.made_of_logAll_error herr
        rw [Act.outcome_error heq]
        exact .error rfl
      · rw [Act.outcome_congr heq]
        exact report_tame (.ok _) _ _

theorem after_nextStep : Request.nextStep.act.after e = e.peeked := Act.after_ok peek_eq

theorem request_keeps (r : e.Ready) (request : Request) :
    e.Keeps (request.act.after e) ∧ (request.act.after e).Ready := by
  cases request with
  | perform op => exact after_keeps r op
  | nextStep =>
    have hstays := e.peeked_stays
    rw [after_nextStep]
    exact ⟨hstays.toKeeps, hstays.toKeeps.ready r (hstays.typed r.typed)⟩

theorem serve_keeps (r : e.Ready) (requests : List Request) :
    e.Keeps (e.serve requests) ∧ (e.serve requests).Ready := by
  induction requests generalizing e with
  | nil => exact ⟨.refl e, r⟩
  | cons request rest ih =>
    obtain ⟨hk, hr⟩ := request_keeps r request
    obtain ⟨hk', hr'⟩ := ih hr
    exact ⟨hk.trans hk', hr'⟩

/-- Every request leaves the engine on steps of the script. -/
theorem serve_stands (r : e.Ready) (h : e.Stands (fun _ => True) P) (requests : List Request) :
    ∃ P', (e.serve requests).Stands (fun _ => True) P' := by
  induction requests generalizing e P with
  | nil => exact ⟨P, h⟩
  | cons request rest ih =>
    have hrequest : ∃ P', (request.act.after e).Stands (fun _ => True) P' := by
      cases request with
      | perform op => exact after_stands r h op fun _ _ _ _ => trivial
      | nextStep =>
        have hstays := e.peeked_stays
        rw [after_nextStep]
        exact ⟨P, h.cut hstays.script (hstays.onPath h.onPath) (List.prefix_refl P)⟩
    obtain ⟨P', hP'⟩ := hrequest
    exact ih (request_keeps r request).2 hP'

/-- **A script without problems is safe**, after any run of a new engine. -/
theorem serve_safe (fresh : e.Fresh) (problems : e.script.problems = []) (foreign : e.registry.Foreign)
    (requests : List Request) : (e.serve requests).Safe := by
  obtain ⟨hk, -⟩ := serve_keeps fresh.ready requests
  obtain ⟨P, hP⟩ := serve_stands fresh.ready (.nil fresh) requests
  refine ⟨(fresh.built.sound.closed_of_problems problems).of_freeze_eq hk.script, ?_, fun current hc => ?_⟩
  · rwa [Registry.Foreign, hk.functions]
  · rcases hP.steps current (List.mem_of_getLast? (hP.onPath.last.trans hc)) with hshows | ⟨-, hstep, -⟩
    · exact hshows.hasStep
    · exact hstep

end Engine
end Walkthrough
