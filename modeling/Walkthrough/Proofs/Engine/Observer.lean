/-
# What an observer of the events knows

An observer keeps a position. A step can be left only if it is the one observed, and entered only from there
(`Event.observe`). What an engine tells is enough to follow it (`tells`):

| operation | told about the position |
| --- | --- |
| a move, from a step | the step is left, the next one entered from it |
| a move, before the first step | the first step is entered from nowhere |
| `restore`, to another step | as a move |
| `restore`, to the same step | nothing |
| any other, or any that fails | nothing |

Two changes of position are not told (`Slips`). No event says that an engine stands nowhere. So the observer
stays behind when a snapshot without a current step is put in place of a state that stands on a step
(`Empties`), and then it is lost for good (`Lost`), because the next step is entered from nowhere. And `advance`
tells its events last, so that nothing is told if it stumbles (`StumblesOn`).
-/

import Walkthrough.Proofs.Engine.Run

namespace Walkthrough
namespace Event

variable {events : List Event} {p : Option Int}

/-- What an event makes of the observed position, if it can happen there. -/
def observe (position : Option Int) : Event → Option (Option Int)
  | stepEntered previous step => if previous = position then some (some step) else none
  | stepLeft step => if position = some step then some position else none
  | _ => some position

/-- What events make of it, one after the other. -/
def watch (position : Option Int) (events : List Event) : Option (Option Int) := events.foldlM observe position

/-- Whether an event is about the position. -/
def isMove : Event → Bool
  | stepEntered _ _ => true
  | stepLeft _ => true
  | _ => false

theorem watch_cons (event : Event) : watch p (event :: events) = (observe p event).bind fun q => watch q events :=
  List.foldlM_cons

theorem watch_append {later : List Event} :
    watch p (events ++ later) = (watch p events).bind fun q => watch q later := List.foldlM_append

theorem observe_of_unmoved {event : Event} (h : event.isMove = false) : observe p event = some p := by
  cases event <;> first | rfl | cases h

theorem watch_of_unmoved (h : ∀ event ∈ events, event.isMove = false) : watch p events = some p := by
  induction events with
  | nil => rfl
  | cons event rest ih =>
    rw [watch_cons, observe_of_unmoved (h event List.mem_cons_self), Option.bind_some]
    exact ih fun x hx => h x (List.mem_cons_of_mem _ hx)

/-- An observer who believes the engine on a step cannot follow events that begin nowhere, unless there is
nothing to follow. -/
theorem watch_from_elsewhere {step : Int} (h : watch none events = some p) :
    watch (some step) events = none ∨ p = none ∧ watch (some step) events = some (some step) := by
  induction events with
  | nil => exact .inr ⟨(Option.some.inj h).symm, rfl⟩
  | cons event rest ih =>
    rw [watch_cons] at h ⊢
    cases hmove : event.isMove with
    | false =>
      rw [observe_of_unmoved hmove, Option.bind_some] at h ⊢
      exact ih h
    | true =>
      cases event with
      | stepLeft left => cases h
      | stepEntered previous next =>
        rcases previous with _ | previous
        · exact .inl rfl
        · cases h
      | _ => cases hmove

end Event

namespace Engine

variable {α : Type} {e e' e'' : Engine} {s : Snapshot}

/-- What was told on the way from one engine to another leads from the one position to the other. -/
def Tells (e e' : Engine) : Prop :=
  ∃ events, e'.emitted = e.emitted ++ events ∧ Event.watch e.current events = some e'.current

theorem Tells.refl (e : Engine) : e.Tells e := ⟨[], (List.append_nil _).symm, rfl⟩

theorem Tells.of_eq (h : e' = e) : e.Tells e' := h ▸ .refl e

theorem Tells.trans (h : e.Tells e') (h' : e'.Tells e'') : e.Tells e'' := by
  obtain ⟨first, hfirst, hwatch⟩ := h
  obtain ⟨second, hsecond, hwatch'⟩ := h'
  refine ⟨first ++ second, by rw [hsecond, hfirst, List.append_assoc], ?_⟩
  rw [Event.watch_append, hwatch, Option.bind_some, hwatch']

/-- An operation that tells everything at its end. -/
theorem tells_of_report {m : Act α} {x : Except Error α} {events : List Event} (heq : m e = report x events e')
    (q : e'.Quiet) (emitted : e'.emitted = e.emitted)
    (h : Event.watch e.current events = some e'.current) : e.Tells (m.after e) := by
  rw [Act.after_congr heq, q.after_report]
  exact ⟨events, by rw [emitted], h⟩

/-! ## Moves -/

theorem watch_arrivalEvents (left : Option Int) (step : Int) :
    Event.watch left (arrivalEvents left step) = some (some step) := by
  cases left with
  | none => rfl
  | some left => simp [arrivalEvents, Event.watch, Event.observe]

/-- `advance` stumbles on another step than the one on which the engine stood. -/
def Trips (e : Engine) : Prop := ∃ step, e.StumblesOn step ∧ e.current ≠ some step.id

theorem watch_moveEvents (h : ¬e.Trips) : Event.watch e.current (moveEvents e.current (landing (e.travel true).1)) =
    some (e.moved (e.travel true)).current := by
  rcases hway : e.travel true with ⟨halt | step, c⟩
  · have hcurrent : (e.moved (.error halt, c)).current = e.current := current_setOut
    rw [hcurrent]
    cases halt <;> rfl
  · have hcurrent :
        (e.moved (.ok step, c)).current = if e.isStarted || step.isLoggable then some step.id else none := by
      rw [moved_ok, arrive, isStarted]
      exact congrArg (fun p => if Option.isSome p || step.isLoggable then some step.id else none) current_setOut
    rw [hcurrent]
    cases hlog : step.isLoggable with
    | true =>
      rw [landing_of_isLoggable hlog, Bool.or_true, if_pos rfl]
      exact watch_arrivalEvents e.current step.id
    | false =>
      -- Nothing is told, so the engine has to stand where it stood.
      rw [landing_of_not_isLoggable hlog, Bool.or_false]
      change some e.current = _
      cases hs : e.isStarted with
      | false =>
        rw [if_neg Bool.false_ne_true, Option.isSome_eq_false_iff.1 hs |> Option.isNone_iff_eq_none.1]
      | true =>
        rw [if_pos rfl]
        refine congrArg some (Classical.byContradiction fun hne => h ⟨step, ⟨hs, ?_, hlog⟩, hne⟩)
        rw [hway]

theorem emitted_moved (e : Engine) (way : Except Halt Step × Chain) : (e.moved way).emitted = e.emitted := by
  have hset : e.setOut.emitted = e.emitted := by
    unfold setOut
    split <;> rfl
  obtain ⟨halt | step, c⟩ := way <;> exact hset

/-- What a move tells, whether or not it reaches a step. -/
theorem tells_of_move {m : Act α} {x : Except Error α} (r : e.Ready) (q : e.Quiet) (h : ¬e.Trips)
    (heq : m e = report x (moveEvents e.current (landing (e.travel true).1)) (e.moved (e.travel true))) :
    e.Tells (m.after e) :=
  tells_of_report heq ((moved_keeps r true).1.quiet q) (emitted_moved e _) (watch_moveEvents h)

/-- A step that is not yet started cannot be tripped over. -/
theorem not_trips_of_not_started (h : e.current = none) : ¬e.Trips := by
  rintro ⟨step, hstumbles, -⟩
  have hstarted := hstumbles.started
  rw [isStarted, h] at hstarted
  cases hstarted

/-! ## Values and choices -/

theorem isMove_readyEvents (before after : Option Int) :
    ∀ event ∈ readyEvents before after, event.isMove = false := by
  unfold readyEvents
  split
  · split <;> simp [Event.isMove]
  · simp

theorem setValue_tells (q : e.Quiet) (id : Int) (v : Value) : e.Tells ((setValue id v).after e) := by
  have heq := setValue_eq id v e
  split at heq
  · exact .of_eq (Act.after_error heq)
  split at heq
  · rw [Act.after_error heq]
    exact ⟨[], (List.append_nil _).symm, rfl⟩
  next w _ =>
  split at heq
  · rw [Act.after_error heq]
    exact ⟨[], (List.append_nil _).symm, rfl⟩
  · have hquiet : (e.written id w).peeked.Quiet := q
    exact tells_of_report heq hquiet rfl (Event.watch_of_unmoved (isMove_readyEvents _ _))

theorem setValues_tells (q : e.Quiet) (es : List (Int × Value)) : e.Tells ((setValues es).after e) := by
  induction es generalizing e with
  | nil => exact .refl e
  | cons x rest ih =>
    have hx := setValue_tells q x.1 x.2
    have hstays := setValue_stays x.1 x.2 e
    unfold setValues
    cases h : setValue x.1 x.2 e with
    | ok a e' =>
      rw [Act.after_ok h] at hx hstays
      rw [Act.after_congr (Act.bind_ok h)]
      exact hx.trans (ih (hstays.toKeeps.quiet q))
    | error err e' =>
      rw [Act.after_error h] at hx
      rw [Act.after_error (Act.bind_error h)]
      exact hx

theorem selectChoice_tells (q : e.Quiet) (step choice : Int) : e.Tells ((selectChoice step choice).after e) := by
  have heq := selectChoice_eq step choice e
  split at heq
  · exact .of_eq (Act.after_error heq)
  split at heq
  · exact .of_eq (Act.after_error heq)
  split at heq
  · exact .of_eq (Act.after_error heq)
  next c _ =>
  split at heq
  · exact .of_eq (Act.after_ok heq)
  have hvalues := setValues_tells q c.values.entries
  have hstays := setValues_stays c.values.entries e
  split at heq
  · next err e' he =>
    rw [Act.after_error he] at hvalues
    rw [Act.after_error heq]
    exact hvalues
  · next a e' he =>
    rw [Act.after_ok he] at hvalues hstays
    have hquiet : Quiet { e' with selected := e'.selected.insert step choice } := hstays.toKeeps.quiet q
    rw [Act.after_congr heq, hquiet.after_report]
    exact hvalues.trans ⟨_, rfl, Event.watch_of_unmoved (by simp [Event.isMove])⟩

/-! ## Restoring -/

/-- **Restoring takes the engine off its step**: it stands on one, and a snapshot without a current step is
accepted and written. -/
def Empties (e : Engine) (s : Snapshot) : Prop :=
  e.isStarted = true ∧ s.current = none ∧ ∃ r, e.check s = .ok r ∧ Store.logAll r.values.entries = .ok ()

theorem isMove_choices (es : List (Int × Int)) :
    ∀ event ∈ es.map (fun x => Event.choiceActivated x.1 x.2), event.isMove = false := by
  intro event h
  obtain ⟨x, -, rfl⟩ := List.mem_map.1 h
  rfl

theorem watch_restoreEvents (before : Option Int) (r : Restored) :
    Event.watch before (restoreEvents before r) = some (if r.current.isNone then before else r.current) := by
  unfold restoreEvents
  rw [Event.watch_append, Event.watch_of_unmoved (isMove_choices _), Option.bind_some]
  cases r.current with
  | none => rfl
  | some target =>
    dsimp only
    split
    · next h => rw [beq_iff_eq.1 h]; rfl
    · exact watch_arrivalEvents before target

theorem restore_tells (q : e.Quiet) (h : ¬e.Empties s) : e.Tells ((restore s).after e) := by
  have heq := restore_eq (e := e) (s := s)
  split at heq
  · exact .of_eq (Act.after_error heq)
  next r hr =>
  split at heq
  · rw [Act.after_error heq]
    exact ⟨[], (List.append_nil _).symm, rfl⟩
  · next hlog =>
    have hquiet : (e.adopted r).Quiet := q
    refine tells_of_report heq hquiet rfl ((watch_restoreEvents _ _).trans (congrArg some ?_))
    change (if r.current.isNone then e.current else r.current) = r.current
    cases hcurrent : r.current with
    | some target => rfl
    | none =>
      cases hc : e.current with
      | none => rfl
      | some current =>
        exact absurd ⟨by rw [isStarted, hc]; rfl, (check_ok hr).1.symm.trans hcurrent, r, hr, hlog⟩ h

/-! ## Runs -/

/-- **A change of position that is not told**: the engine is taken off its step, or `advance` stumbles on another
one. -/
inductive Slips (e : Engine) : Operation → Prop
  | emptied {s : Snapshot} (h : e.Empties s) : Slips e (.restore s)
  | tripped (h : e.Trips) : Slips e .advance

/-- **An operation tells where it leads**, unless that slips the observer. -/
theorem tells (r : e.Ready) (q : e.Quiet) {op : Operation} (h : ¬e.Slips op) : e.Tells (op.act.after e) := by
  cases op with
  | start =>
    rw [Operation.act, Act.after_map]
    cases hc : e.current with
    | none => exact tells_of_move r q (not_trips_of_not_started hc) (start_eq r hc)
    | some current => exact .of_eq (Act.after_error (start_eq_of_started hc))
  | advance =>
    rw [Operation.act, Act.after_map]
    exact tells_of_move r q (fun ht => h (.tripped ht)) (advance_eq r)
  | back =>
    rw [Operation.act, Act.after_map]
    have heq := back_eq (e := e)
    split at heq
    · exact .of_eq (Act.after_error heq)
    next left hc =>
    split at heq
    · exact .of_eq (Act.after_error heq)
    next previous _ =>
    have hquiet : Quiet { e with cameFrom := e.cameFrom.erase left, current := some previous } := q
    exact tells_of_report heq hquiet rfl (hc ▸ watch_arrivalEvents (some left) previous)
  | selectChoice step choice =>
    rw [Operation.act, Act.after_map]
    exact selectChoice_tells q step choice
  | setValue id v =>
    rw [Operation.act, Act.after_map]
    exact setValue_tells q id v
  | restore s =>
    rw [Operation.act, Act.after_map]
    exact restore_tells q fun hs => h (.emptied hs)

/-- An observer of everything that was told knows where the engine stands. -/
def Sees (e : Engine) : Prop := Event.watch none e.emitted = some e.current

/-- An observer of everything that was told is lost: it was told what cannot have happened, or it believes the
engine on a step although it stands nowhere. -/
def Lost (e : Engine) : Prop :=
  Event.watch none e.emitted = none ∨ e.current = none ∧ ∃ step, Event.watch none e.emitted = some (some step)

theorem Lost.not_sees (h : e.Lost) : ¬e.Sees := by
  intro hsees
  rcases h with h | ⟨hcurrent, step, h⟩
  · exact nomatch hsees.symm.trans h
  · have heq := hsees.symm.trans h
    rw [hcurrent] at heq
    cases heq

theorem Sees.tells (h : e.Sees) (ht : e.Tells e') : e'.Sees := by
  obtain ⟨events, hemitted, hwatch⟩ := ht
  rw [Sees, hemitted, Event.watch_append, show Event.watch none e.emitted = some e.current from h,
    Option.bind_some, hwatch]

/-- Nothing that is told helps an observer who is lost. -/
theorem Lost.tells (h : e.Lost) (ht : e.Tells e') : e'.Lost := by
  obtain ⟨events, hemitted, hwatch⟩ := ht
  rw [Lost, hemitted, Event.watch_append]
  rcases h with h | ⟨hcurrent, step, h⟩
  · exact .inl (by rw [h]; rfl)
  · rw [hcurrent] at hwatch
    rw [h, Option.bind_some]
    exact (Event.watch_from_elsewhere hwatch).imp_right fun ⟨hnone, hstep⟩ => ⟨hnone, step, hstep⟩

/-- The observer of an engine that is taken off its step is lost, if it was not before. -/
theorem Empties.lost (q : e.Quiet) (h : e.Empties s) (he : e.Sees ∨ e.Lost) : ((restore s).after e).Lost := by
  obtain ⟨hstarted, hcurrent, r, hr, hlog⟩ := h
  obtain ⟨current, hc⟩ := Option.isSome_iff_exists.1 hstarted
  have hnone : r.current = none := (check_ok hr).1.trans hcurrent
  have hquiet : (e.adopted r).Quiet := q
  have hwatch := watch_restoreEvents e.current r
  rw [hnone, Option.isNone_none, if_pos rfl] at hwatch
  have htold : Event.watch none (e.emitted ++ restoreEvents e.current r) =
      (Event.watch none e.emitted).bind fun q => Event.watch q (restoreEvents e.current r) :=
    Event.watch_append
  rw [Act.after_congr (restore_accepted hr hlog), hquiet.after_report]
  rcases he with hsees | hlost | ⟨hcurrent, -⟩
  · rw [show Event.watch none e.emitted = some e.current from hsees, Option.bind_some, hwatch, hc] at htold
    exact .inr ⟨hnone, current, hc ▸ htold⟩
  · rw [hlost] at htold
    exact .inl htold
  · exact nomatch hc.symm.trans hcurrent

/-- The observer of an engine that trips stays behind. -/
theorem Trips.not_sees (r : e.Ready) (h : e.Trips) (he : e.Sees) : ¬(advance.after e).Sees := by
  obtain ⟨step, hstumbles, hne⟩ := h
  rw [Act.after_error (advance_of_stumblesOn r hstumbles)]
  have hcurrent : (e.moved (.ok step, (e.travel true).2)).current = some step.id := by
    have hset : (e.setOut.afterChain (e.travel true).2).isStarted = true :=
      (congrArg Option.isSome current_setOut).trans hstumbles.started
    rw [moved_ok, arrive, hset]
    rfl
  intro hsees
  rw [Sees, emitted_moved, hcurrent, show Event.watch none e.emitted = some e.current from he] at hsees
  exact hne (Option.some.inj hsees)

/-- The observer that knows where the engine stands knows it after an operation as well, exactly if that does not
slip it. -/
theorem sees_after_iff (r : e.Ready) (q : e.Quiet) (h : e.Sees) (op : Operation) :
    (op.act.after e).Sees ↔ ¬e.Slips op := by
  refine ⟨fun hsees hslips => ?_, fun hslips => h.tells (tells r q hslips)⟩
  cases hslips with
  | emptied hs =>
    rw [Operation.act, Act.after_map] at hsees
    exact (hs.lost q (.inl h)).not_sees hsees
  | tripped ht =>
    rw [Operation.act, Act.after_map] at hsees
    exact ht.not_sees r h hsees

/-- Nothing helps an observer who is lost. -/
theorem Lost.after (r : e.Ready) (q : e.Quiet) (h : e.Lost) (op : Operation) : (op.act.after e).Lost := by
  by_cases hslips : e.Slips op
  · cases hslips with
    | emptied hs =>
      rw [Operation.act, Act.after_map]
      exact hs.lost q (.inr h)
    | tripped ht =>
      -- What was told stays impossible: nothing else is told, and an engine that stands nowhere does not trip.
      rcases h with h | ⟨hcurrent, -⟩
      · obtain ⟨step, hstumbles, -⟩ := ht
        rw [Operation.act, Act.after_map, Act.after_error (advance_of_stumblesOn r hstumbles)]
        exact .inl (by rw [emitted_moved]; exact h)
      · exact absurd ht (not_trips_of_not_started hcurrent)
  · exact h.tells (Engine.tells r q hslips)

theorem run_lost (r : e.Ready) (q : e.Quiet) (h : e.Lost) (ops : List Operation) : (e.run ops).Lost := by
  induction ops generalizing e with
  | nil => exact h
  | cons op rest ih =>
    obtain ⟨hk, hr⟩ := after_keeps r op
    exact ih hr (hk.quiet q) (h.after r q op)

/-- After every operation of a run, the observer knows where the engine stands. -/
def Watched (e : Engine) (ops : List Operation) : Prop :=
  ∀ before after, ops = before ++ after → (e.run before).Sees

theorem watched_cons {op : Operation} {rest : List Operation} :
    e.Watched (op :: rest) ↔ e.Sees ∧ (op.act.after e).Watched rest := by
  constructor
  · exact fun h => ⟨h [] _ rfl, fun before after heq => h (op :: before) after (congrArg (op :: ·) heq)⟩
  · rintro ⟨hsees, hrest⟩ (_ | ⟨op', before⟩) after heq
    · exact hsees
    · obtain ⟨rfl, rfl⟩ := List.cons.inj heq
      exact hrest before after rfl

/-- Somewhere in a run the observer is slipped. -/
def SlipsIn (e : Engine) (ops : List Operation) : Prop :=
  ∃ before op after, ops = before ++ op :: after ∧ (e.run before).Slips op

theorem slipsIn_cons {op : Operation} {rest : List Operation} :
    e.SlipsIn (op :: rest) ↔ e.Slips op ∨ (op.act.after e).SlipsIn rest := by
  constructor
  · rintro ⟨_ | ⟨op', before⟩, op'', after, heq, h⟩
    · obtain ⟨rfl, -⟩ := List.cons.inj heq
      exact .inl h
    · obtain ⟨rfl, rfl⟩ := List.cons.inj heq
      exact .inr ⟨before, op'', after, rfl, h⟩
  · rintro (h | ⟨before, op', after, rfl, h⟩)
    · exact ⟨[], op, rest, rfl, h⟩
    · exact ⟨op :: before, op', after, rfl, h⟩

theorem watched_iff (r : e.Ready) (q : e.Quiet) (h : e.Sees) (ops : List Operation) :
    e.Watched ops ↔ ¬e.SlipsIn ops := by
  induction ops generalizing e with
  | nil =>
    refine iff_of_true (fun before after heq => ?_) ?_
    · rw [(List.append_eq_nil_iff.1 heq.symm).1]
      exact h
    · rintro ⟨before, op, after, heq, -⟩
      exact nomatch (List.append_eq_nil_iff.1 heq.symm).2
  | cons op rest ih =>
    obtain ⟨hk, hr⟩ := after_keeps r op
    have hafter := sees_after_iff r q h op
    rw [watched_cons, slipsIn_cons, and_iff_right h, not_or]
    constructor
    · intro hwatched
      have hsees : (op.act.after e).Sees := hwatched [] rest rfl
      exact ⟨hafter.1 hsees, (ih hr (hk.quiet q) hsees).1 hwatched⟩
    · rintro ⟨hslips, hrest⟩
      exact (ih hr (hk.quiet q) (hafter.2 hslips)).2 hrest

/-- **Events tell the whole story**, but for two changes of position. Let listeners that do not fail note every
event of a new engine. The observer was told nothing that cannot have happened, and knows on which step the engine
stands, after every operation of a run, if and only if nothing in the run slips it: no snapshot without a current
step takes the engine off its step, and no `advance` stumbles on another one. Once such a snapshot was restored the
observer is lost for good. -/
theorem run_watched (fresh : e.Fresh) (quiet : e.Quiet) (silent : e.emitted = []) (ops : List Operation) :
    ((∀ before after, ops = before ++ after →
        Event.watch none (e.run before).emitted = some (e.run before).current) ↔ ¬e.SlipsIn ops) ∧
      ∀ before s after, ops = before ++ .restore s :: after → (e.run before).Sees → (e.run before).Empties s →
        (e.run ops).Lost := by
  have hsees : e.Sees := by
    rw [Sees, silent, fresh.current]
    rfl
  refine ⟨watched_iff fresh.ready quiet hsees ops, ?_⟩
  rintro before s after rfl hbefore hempties
  obtain ⟨hk, hr⟩ := run_keeps fresh.ready before
  have hlost : ((Operation.restore s).act.after (e.run before)).Lost := by
    rw [Operation.act, Act.after_map]
    exact hempties.lost (hk.quiet quiet) (.inl hbefore)
  obtain ⟨hk', hr'⟩ := after_keeps hr (.restore s)
  have hrun : e.run (before ++ .restore s :: after) =
      ((Operation.restore s).act.after (e.run before)).run after := by
    unfold run
    rw [List.foldl_append, List.foldl_cons]
  rw [hrun]
  exact run_lost hr' (hk'.quiet (hk.quiet quiet)) hlost after

/-- There and back on a relay, and to its end by a snapshot. -/
theorem relay_watched :
    let ops : List Operation := [.start, .advance, .back, .restore { current := some 3, history := [1, 3] }]
    Event.watch none ((ofScript relay echoes).run ops).emitted = some (some 3) ∧
      ¬(ofScript relay echoes).SlipsIn ops := by
  intro ops
  have htaken : ∀ n < 5, Event.watch none ((ofScript relay echoes).run (ops.take n)).emitted =
      some ((ofScript relay echoes).run (ops.take n)).current := by decide +kernel
  have hslips := (run_watched relay_fresh (ofScript_quiet relay echoes) rfl ops).1.1 fun before after heq => by
    have hlength : before.length < 5 := by
      have := congrArg List.length heq
      simp only [ops, List.length_append, List.length_cons, List.length_nil] at this
      omega
    have hbefore : before = ops.take before.length := by rw [heq, List.take_left]
    rw [hbefore]
    exact htaken _ hlength
  exact ⟨by decide +kernel, hslips⟩

/-- **Off the step without an event.** An empty snapshot is accepted by an engine that was started, which
stands nowhere then. What was told still leads to its first step. -/
theorem emptied_unobserved :
    (ofScript relay echoes).Fresh ∧ (ofScript relay echoes).Quiet ∧
      let e := (ofScript relay echoes).run [.start]
      ((restore {}).outcome e).toOption = some () ∧
        Event.watch none (e.run [.restore {}]).emitted = some (some 1) ∧
          (e.run [.restore {}]).current = none :=
  ⟨relay_fresh, ofScript_quiet relay echoes, by decide +kernel, by decide +kernel, by decide +kernel⟩

/-- **On another step without an event**: `advance` stumbles on the second step. -/
theorem census_unobserved :
    let e := (ofScript census .empty).run [.start, .advance]
    Event.watch none e.emitted = some (some 1) ∧ e.current = some 2 :=
  ⟨by decide +kernel, by decide +kernel⟩

end Engine
end Walkthrough
