/-
# What a trial leaves behind

A chain on trial notes what it writes in its overlay. Whatever comes of it, its store is the one it began
with (`Chain.Tries`), so looking ahead leaves nothing behind but the calls that were made
(`Engine.OnlyCalled`). Writing a value looks ahead twice, before the write and after it:

| the value | is written | listeners are told of | it ends |
| --- | --- | --- | --- |
| has no form for the property | no | nothing | with the error of the conversion |
| has a form for it, but cannot be logged | in that form | nothing | with the error of the log |
| has a form for it | in that form | a step that is foreseen now and was not before | well, unless a listener objects |

Listeners are told when the value was written, so an objection does not undo the write.
-/

import Walkthrough.Proofs.Engine.LookAhead

namespace Walkthrough

theorem Registry.calls_call (r : Registry) (name : String) (arguments : Arguments) :
    r.calls <+: (r.call name arguments).2.calls := by
  unfold call
  dsimp only
  split
  · exact List.prefix_refl _
  · split
    · exact List.prefix_append _ _
    · exact List.prefix_refl _

/-! ## Chains -/

namespace Chain

/-- **What a chain on trial leaves behind**: the store that it began with, and the calls that it made after
those that were made before. -/
structure Tries (c d : Chain) : Prop where
  store : d.store = c.store
  calls : c.registry.calls <+: d.registry.calls

/-- **A chain on trial writes nothing**, however far it comes and whatever it ends with. -/
theorem tries_sustained : Sustained false Tries where
  refl _ := ⟨rfl, List.prefix_refl _⟩
  trans h h' := ⟨h'.store.trans h.store, h.calls.trans h'.calls⟩
  walk _ _ := ⟨rfl, List.prefix_refl _⟩
  put _ := ⟨rfl, List.prefix_refl _⟩
  call c name arguments := ⟨rfl, c.registry.calls_call name arguments⟩

end Chain

namespace Engine

variable {e e' : Engine}

/-! ## Looking ahead -/

/-- Nothing happened between two engines but calls of functions. -/
structure OnlyCalled (e e' : Engine) : Prop where
  eq : e' = { e with registry := e'.registry }
  functions : e'.registry.functions = e.registry.functions
  calls : e.registry.calls <+: e'.registry.calls

theorem OnlyCalled.refl (e : Engine) : e.OnlyCalled e := ⟨rfl, rfl, List.prefix_refl _⟩

theorem travel_tries (e : Engine) : (e.newChain e.current.toList).Tries (e.travel false).2 := by
  unfold travel
  split
  · exact Chain.tries_sustained.refl _
  · exact Chain.tries_sustained.run

theorem peeked_onlyCalled (e : Engine) : e.OnlyCalled e.peeked :=
  ⟨rfl, (travel_keeps e false).functions, (travel_tries e).calls⟩

/-- With functions that depend on their arguments only, the same step is foreseen wherever the values are the
same. -/
theorem Alike.foreseen_eq (h : e.Alike e') (pure : e.registry.Pure)
    (values : ∀ id, e'.store.value id = e.store.value id) : e'.foreseen = e.foreseen := by
  have htravel : (e'.travel false).1 = (e.travel false).1 := by
    unfold travel
    -- All values are the same, so it does not matter which of them the way consults.
    rw [h.departure_eq pure fun id _ => values id, h.current]
    cases e.departure with
    | error halt => rfl
    | ok step =>
      dsimp only
      rw [h.run_eq]
      exact (Chain.Sim.run_eq h.blank (h.sim pure false _) fun _ _ id _ => values id).1
  rw [foreseen, htravel, foreseen]

/-! ## Writing a value -/

/-- Listeners are told of at most one step: of one that is foreseen and was not before. -/
theorem readyEvents_cases (before after : Option Int) :
    (readyEvents before after = [] ∧ ∀ t, after = some t → before = some t) ∨
      ∃ t, readyEvents before after = [.nextStepReady t] ∧ after = some t ∧ before ≠ some t := by
  cases after with
  | none => exact .inl ⟨rfl, fun t h => nomatch h⟩
  | some t =>
    by_cases hbefore : before = some t
    · exact .inl ⟨by simp [readyEvents, hbefore], fun t' h => hbefore.trans h⟩
    · exact .inr ⟨t, by simp [readyEvents, hbefore], rfl, hbefore⟩

theorem length_readyEvents_le (before after : Option Int) : (readyEvents before after).length ≤ 1 := by
  rcases readyEvents_cases before after with ⟨h, -⟩ | ⟨t, h, -⟩
  · rw [h]
    exact Nat.zero_le 1
  · rw [h]
    exact Nat.le_refl 1

theorem mem_readyEvents {before after : Option Int} {event : Event} : event ∈ readyEvents before after ↔
    ∃ t, event = .nextStepReady t ∧ after = some t ∧ before ≠ some t := by
  rcases readyEvents_cases before after with ⟨h, hsame⟩ | ⟨t, h, hafter, hbefore⟩
  · rw [h]
    refine iff_of_false List.not_mem_nil ?_
    rintro ⟨t, -, hafter, hbefore⟩
    exact hbefore (hsame t hafter)
  · rw [h, List.mem_singleton]
    constructor
    · rintro rfl
      exact ⟨t, rfl, hafter, hbefore⟩
    · rintro ⟨t', rfl, hafter', -⟩
      rw [hafter] at hafter'
      rw [Option.some.inj hafter']

/-- A single event is told, also if a listener objects. -/
theorem after_report_of_length_le_one {α : Type} (r : Except Error α) {events : List Event}
    (h : events.length ≤ 1) : (report r events).after e = { e with emitted := e.emitted ++ events } := by
  match events with
  | [] =>
    rw [List.append_nil]
    cases r <;> rfl
  | [event] =>
    have heq : report r [event] e = _ := report_cons
    cases hobjection : e.objection event with
    | some err =>
      rw [hobjection] at heq
      exact Act.after_error heq
    | none =>
      rw [hobjection] at heq
      rw [Act.after_congr heq]
      cases r <;> rfl

/-- **A value without a form for its property** is not written, and listeners are not told anything. -/
theorem setValue_refused {id : Int} {v : Value} {err : Error} (h : e.store.convert id v = .error err) :
    (setValue id v).outcome e = .error err ∧ e.OnlyCalled ((setValue id v).after e) := by
  obtain ⟨e', heq, he'⟩ := setValue_of_error h
  rw [Act.outcome_error heq, Act.after_error heq]
  refine ⟨rfl, ?_⟩
  rcases he' with rfl | rfl
  · exact .refl e'
  · exact peeked_onlyCalled e

theorem after_setValue {id : Int} {v w : Value} (h : e.store.convert id v = .ok w)
    (hlog : Store.isLoggable id w = true) :
    (setValue id v).after e = { (e.written id w).peeked with
      emitted := e.emitted ++ readyEvents e.foreseen (e.written id w).foreseen } :=
  (Act.after_congr (setValue_of_ok h hlog)).trans (after_report_of_length_le_one _ (length_readyEvents_le _ _))

/-- What has a form for its property is written in it, whatever is told and whether it can be logged or not. -/
theorem store_after_setValue {id : Int} {v w : Value} (h : e.store.convert id v = .ok w) :
    ((setValue id v).after e).store = e.store.write id w := by
  cases hlog : Store.isLoggable id w with
  | true =>
    rw [after_setValue h hlog]
    rfl
  | false =>
    rw [Act.after_error (setValue_of_not_isLoggable h hlog)]
    rfl

/-- With functions that depend on their arguments only, the step that is foreseen right after a write is
foreseen in the end. -/
theorem foreseen_setValue (pure : e.registry.Pure) {id : Int} {v w : Value} (h : e.store.convert id v = .ok w)
    (hlog : Store.isLoggable id w = true) :
    ((setValue id v).after e).foreseen = (e.written id w).foreseen := by
  have hpure : (e.written id w).registry.Pure := pure.congr (peeked_onlyCalled e).functions
  have halike : (e.written id w).Alike ((setValue id v).after e) := by
    rw [after_setValue h hlog]
    exact ⟨rfl, rfl, rfl, rfl, (peeked_onlyCalled _).functions, fun _ => rfl⟩
  refine halike.foreseen_eq hpure fun id => ?_
  rw [after_setValue h hlog]
  rfl

/-- **Looking ahead leaves nothing behind.** It always ends well, nothing happens but calls of functions, and
even the trial itself has written nothing to its store. Writing a value, which looks ahead twice, leaves no
more behind than it says: a value without a form for its property changes nothing and tells nothing. Any other
that can be logged is written in that form, nothing else changes, and listeners are told of at most one step:
exactly of the one that is foreseen after the write, if it is not the one that was foreseen before. Where
functions depend on their arguments only, that is the step that is foreseen in the end. The write fails only if
a listener objects to what it is told, which undoes nothing. -/
theorem trial_leaves (e : Engine) :
    (∃ t?, peek.outcome e = .ok t?) ∧ e.OnlyCalled (peek.after e) ∧ e.lookAhead.2.store = e.store ∧
    ∀ id v,
      (∀ err, e.store.convert id v = .error err →
        (setValue id v).outcome e = .error err ∧ e.OnlyCalled ((setValue id v).after e)) ∧
      ∀ w, e.store.convert id v = .ok w → Store.isLoggable id w = true → ∃ told,
        OnlyCalled { e.written id w with emitted := e.emitted ++ told } ((setValue id v).after e) ∧
        told.length ≤ 1 ∧
        (∀ event, event ∈ told ↔ ∃ t, event = .nextStepReady t ∧ peek.outcome (e.written id w) = .ok (some t) ∧
          peek.outcome e ≠ .ok (some t)) ∧
        (setValue id v).outcome e = (e.firstObjection told).elim (.ok ()) .error ∧
        (e.registry.Pure → peek.outcome ((setValue id v).after e) = peek.outcome (e.written id w)) := by
  have hpeek : e.OnlyCalled (peek.after e) := Act.after_ok peek_eq ▸ peeked_onlyCalled e
  refine ⟨⟨_, outcome_peek⟩, hpeek, lookAhead_eq ▸ (travel_tries e).store, fun id v =>
    ⟨fun err h => setValue_refused h, fun w h hlog => ?_⟩⟩
  refine ⟨readyEvents e.foreseen (e.written id w).foreseen, ?_, length_readyEvents_le _ _, fun event => ?_, ?_,
    fun pure => ?_⟩
  · have hcalled := peeked_onlyCalled (e.written id w)
    rw [after_setValue h hlog]
    exact ⟨rfl, hcalled.functions, hcalled.calls⟩
  · simp only [mem_readyEvents, outcome_peek, ne_eq, Except.ok.injEq]
  · have hobjection : (e.written id w).peeked.firstObjection = e.firstObjection := rfl
    rw [Act.outcome_congr (setValue_of_ok h hlog), outcome_report, hobjection]
    cases e.firstObjection _ <;> rfl
  · rw [outcome_peek, outcome_peek, foreseen_setValue pure h hlog]

/-! ## A toll -/

/-- A call step between two say steps, that lets through whoever made a note, and takes the note. -/
def toll : Script :=
  let shut := blankSheet.withSay "Shut" { id := .int 1, first := true, required := [1], rules := [(none, .int 2)] }
  let call := shut.withCall { name := "echo", result := some 1, properties := .ofList [("text", 1)] }
    { id := .int 2, defaults := .ofList [(1, .text "taken")], rules := [(none, .int 3)] }
  call.withSay "Open" { id := .int 3 }

/-- Whoever makes a note is told of the way on, and the note is not taken yet. -/
theorem toll_foreseen :
    let e := (ofScript toll echoes).run [.start]
    let e' := (setValue 1 (.text "mine")).after e
    peek.outcome e = .ok none ∧ peek.outcome e' = .ok (some 3) ∧ e'.emitted = e.emitted ++ [.nextStepReady 3] ∧
      e'.store = e.store.write 1 (.text "mine") ∧
        (setValue 2 (.text "mine")).outcome e = .error (.script (.propertyNotFound (.id 2))) := by
  intro e e'
  obtain ⟨-, -, -, hwrite⟩ := trial_leaves e
  have hnote : e.store.schema.get? 1 = some note := by decide +kernel
  have hconvert : e.store.convert 1 (.text "mine") = .ok (.text "mine") := by
    rw [Store.convert, Store.property, hnote]
    rfl
  have hlog : Store.isLoggable 1 (.text "mine") = true := by decide +kernel
  have hunknown : e.store.convert 2 (.text "mine") = .error (.script (.propertyNotFound (.id 2))) := by
    rw [Store.convert_of_unknown (by decide +kernel), Error.raised_of_isWritable (by decide +kernel)]
  have hbefore : peek.outcome e = .ok none := Act.outcome_of_toOption (by decide +kernel)
  have hafter : peek.outcome (e.written 1 (.text "mine")) = .ok (some 3) := Act.outcome_of_toOption (by decide +kernel)
  have fresh : (ofScript toll echoes).Fresh :=
    ofScript_fresh (((blankSheet_built.withSay _ _).withCall _ _).withSay _ _) echoes
  have hkeeps : (ofScript toll echoes).Keeps e := (run_keeps fresh.ready [.start]).1
  clear_value e
  have pure : e.registry.Pure := echoes_pure.congr hkeeps.functions
  obtain ⟨told, hcalled, hlength, hmem, -, hpure⟩ := (hwrite 1 (.text "mine")).2 _ hconvert hlog
  have hready : .nextStepReady 3 ∈ told := (hmem _).2 ⟨3, rfl, hafter, by rw [hbefore]; simp⟩
  obtain ⟨event, rfl⟩ := List.length_eq_one_iff.1 (Nat.le_antisymm hlength (List.length_pos_of_mem hready))
  obtain rfl := List.mem_singleton.1 hready
  exact ⟨hbefore, (hpure pure).trans hafter, congrArg emitted hcalled.eq, congrArg store hcalled.eq,
    ((hwrite 2 (.text "mine")).1 _ hunknown).1⟩

/-- **An objection comes too late.** A listener that fails when it is told of a step lets the write fail, but the
value was written and the listener was told. -/
theorem gate_objected :
    let e : Engine := { (ofScript gate .empty).run [.start] with
      bus := .subscribe .empty .nextStepReady { label := 1, failure := some "no" } }
    let e' := (setValue 1 (.text "mine")).after e
    (∃ err, (setValue 1 (.text "mine")).outcome e = .error err) ∧ e'.emitted = e.emitted ++ [.nextStepReady 2] ∧
      (e.store.value 1).isBlank = true ∧ (e'.store.value 1).isBlank = false := by
  intro e e'
  have hfails : ((setValue 1 (.text "mine")).outcome e).toOption.isNone = true := by decide +kernel
  refine ⟨?_, by decide +kernel, by decide +kernel, by decide +kernel⟩
  cases houtcome : (setValue 1 (.text "mine")).outcome e with
  | error err => exact ⟨err, rfl⟩
  | ok u =>
    rw [houtcome] at hfails
    cases hfails

end Engine
end Walkthrough
