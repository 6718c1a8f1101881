/-
# Snapshots of reached states can be restored

Restoring checks a snapshot again from scratch: its history must follow the transitions of the script, its
choices must exist, its values must fit. A state that was reached without restoring passes all of it
(`Tracked`): a move goes to one of the next say steps, whatever chain of call steps lies between; going
back and coming back only cut the path; a choice is noted only if it exists; and a value that was written
has the form of its property, so that it is converted to itself. So the snapshot suits any new engine for
the script, and there it gives the same snapshot again (`restore_snapshot`).
-/

import Mathlib.Data.List.Chain
import Walkthrough.Proofs.Engine.PathStack

namespace Walkthrough

namespace Engine

variable {e e' : Engine} {P : List Int}

/-- **What restoring will ask for**: the path shows say steps, each a next one of the step before, and the
choices exist. -/
structure Tracked (e : Engine) (P : List Int) : Prop where
  onPath : e.OnPath P
  shows : ∀ step ∈ P, e.script.Shows step
  transitions : P.IsChain fun a b => b ∈ e.script.nextSteps a
  choices : ∀ x ∈ e.selected.entries, (e.script.choice? x.1 x.2).isSome = true

namespace Tracked

theorem nil (f : e.Fresh) : e.Tracked [] := by
  refine ⟨?_, by simp, .nil, ?_⟩
  · unfold OnPath
    rw [f.current, f.cameFrom]
    exact .nil
  · rw [f.selected]
    exact fun _ h => absurd h List.not_mem_nil

/-- The script may be closed to changes, and the path may be another one that is tracked. -/
theorem move {P' : List Int} (h : e.Tracked P) (script : e'.script.freeze = e.script.freeze)
    (selected : e'.selected = e.selected) (onPath : e'.OnPath P')
    (shows : ∀ step ∈ P', e.script.Shows step)
    (transitions : P'.IsChain fun a b => b ∈ e.script.nextSteps a) : e'.Tracked P' := by
  have hstep : e'.script.freeze.step? = e.script.freeze.step? := congrArg Script.step? script
  have hchoice : e'.script.freeze.choice? = e.script.freeze.choice? := congrArg Script.choice? script
  refine ⟨onPath, fun step hs => ?_, ?_, fun x hx => ?_⟩
  · obtain ⟨t, ht, hsay⟩ := shows step hs
    exact ⟨t, (congrFun hstep step).trans ht, hsay⟩
  · refine transitions.imp fun a b hab => ?_
    rw [Script.nextSteps_of_freeze_eq script]
    exact hab
  · rw [selected] at hx
    exact (congrArg Option.isSome (congrFun (congrFun hchoice x.1) x.2)).trans (h.choices x hx)

/-- A part of the path from its first step on. -/
theorem cut {Q : List Int} (h : e.Tracked P) (script : e'.script.freeze = e.script.freeze)
    (selected : e'.selected = e.selected) (hQ : e'.OnPath Q) (pre : Q <+: P) : e'.Tracked Q := by
  obtain ⟨B, rfl⟩ := pre
  exact h.move script selected hQ (fun step hs => h.shows step (List.mem_append_left B hs))
    h.transitions.left_of_append

/-- A move to one of the next say steps. -/
theorem arrive (h : e.Tracked P) (w : e.script.WellFormed) {step : Step} {c : Chain}
    (way : e.travel true = (.ok step, c)) (made : e.isStarted = true ∨ step.isLoggable = true) :
    ∃ P', (e.moved (.ok step, c)).Tracked P' := by
  obtain ⟨P', hstep, hP'⟩ := onPath_of_arrival c h.onPath made
  obtain ⟨hsay, hfound, hnext⟩ := travel_ok w way
  have hscript : (e.moved (.ok step, c)).script.freeze = e.script.freeze := setOut_keeps.script
  have hselected : (e.moved (.ok step, c)).selected = e.selected := selected_setOut
  refine ⟨P', ?_⟩
  generalize hid : step.id = t at hstep
  cases hstep with
  | @rewind A B =>
    have pre : A ++ [t] <+: A ++ t :: B := ⟨B, by rw [List.append_assoc, List.singleton_append]⟩
    exact h.cut hscript hselected hP' pre
  | push =>
    refine h.move hscript hselected hP' (fun x hx => ?_) (h.transitions.append (.singleton t) ?_)
    · rcases List.mem_append.1 hx with hx | hx
      · exact h.shows x hx
      · obtain rfl := List.mem_singleton.1 hx
        exact ⟨step, hid ▸ hfound, hsay⟩
    · intro a ha b hb
      obtain rfl : t = b := Option.some.inj hb
      rw [← hid]
      exact hnext a (h.onPath.last.symm.trans ha)

end Tracked

/-- **What an operation does, restoring apart, is tracked.** -/
theorem Effect.tracked {op : Operation} {x : Except Error (Option Int)} (h : Effect e op x e')
    (hop : op.isRestore = false) (w : e.script.WellFormed) (hP : e.Tracked P) :
    ∃ P', e'.Tracked P' := by
  have stays : ∀ {e'' : Engine}, e.Stays e'' → e''.Tracked P := fun hs =>
    hP.cut hs.script hs.selected (hs.onPath hP.onPath) (List.prefix_refl P)
  cases h with
  | refused => exact ⟨P, hP⟩
  | halted =>
    exact ⟨P, hP.cut setOut_keeps.script selected_setOut (onPath_of_halt hP.onPath) (List.prefix_refl P)⟩
  | started _ way logged => exact hP.arrive w way (.inr logged)
  | advanced way logged => exact hP.arrive w way (.inr logged)
  | fell _ first _ long =>
    exact ⟨P, hP.cut setOut_keeps.script selected_setOut (onPath_of_fall hP.onPath first long) (List.prefix_refl P)⟩
  | stumbled current way => exact hP.arrive w way (.inl (by rw [isStarted, current]; rfl))
  | @wentBack left previous current link =>
    obtain ⟨P', hstep, hP'⟩ := ((Effect.wentBack current link).onPath hP.onPath).1 _ rfl
    cases hstep with
    | @back Q _ t =>
      have pre : Q ++ [previous] <+: Q ++ [previous, t] := ⟨[t], by rw [List.append_assoc]; rfl⟩
      exact ⟨Q ++ [previous], hP.cut rfl rfl hP' pre⟩
  | wrote hs => exact ⟨P, stays hs⟩
  | wroteChoice hs => exact ⟨P, stays hs⟩
  | chose hs known =>
    have hT := stays hs
    refine ⟨P, hT.onPath, hT.shows, hT.transitions, fun x hx => ?_⟩
    rcases OrderedMap.mem_put hx with rfl | hx
    · have hchoice : Script.choice? (Script.freeze _) = Script.choice? (Script.freeze _) :=
        congrArg Script.choice? hs.script
      exact (congrArg Option.isSome (congrFun (congrFun hchoice _) _)).trans known
    · refine hT.choices x ?_
      rw [hs.selected]
      exact hx
  | restored => cases hop
  | interrupted => cases hop

/-- Every engine that is reached without restoring is tracked. -/
theorem run_tracked (r : e.Ready) (h : e.Tracked P) {ops : List Operation}
    (hops : ∀ op ∈ ops, op.isRestore = false) : ∃ P', (e.run ops).Tracked P' := by
  induction ops generalizing e P with
  | nil => exact ⟨P, h⟩
  | cons op rest ih =>
    obtain ⟨x, events, e', told, heffect, hafter, -⟩ := does r op
    obtain ⟨P', hP'⟩ := heffect.tracked (hops op List.mem_cons_self) r.wellFormed h
    have htracked : (op.act.after e).Tracked P' := by
      rw [hafter]
      exact ⟨hP'.onPath, hP'.shows, hP'.transitions, hP'.choices⟩
    exact ih (after_keeps r op).2 htracked fun y hy => hops y (List.mem_cons_of_mem _ hy)

/-! ## Restoring -/

/-- **The snapshot suits** every engine for the same script. -/
theorem Tracked.suits (h : e.Tracked P) (typed : e.store.Typed)
    (script : e'.script.freeze = e.script.freeze) (schema : e'.store.schema = e.store.schema) :
    e'.Suits e.snapshot := by
  have hstep : e'.script.freeze.step? = e.script.freeze.step? := congrArg Script.step? script
  have hchoice : e'.script.freeze.choice? = e.script.freeze.choice? := congrArg Script.choice? script
  have hpath : e.snapshot.history = P := h.onPath.path_eq
  have hshows : ∀ step ∈ P, e'.script.Shows step := fun step hs => by
    obtain ⟨t, ht, hsay⟩ := h.shows step hs
    exact ⟨t, (congrFun hstep step).trans ht, hsay⟩
  refine ⟨?_, ?_, ?_, ?_, ?_, ?_, ?_⟩
  · rw [hpath]
    exact h.onPath.nodup
  · rw [hpath]
    exact h.onPath.last
  · intro current hc
    exact hshows current (List.mem_of_getLast? (h.onPath.last.trans hc))
  · rw [hpath]
    intro step hs
    obtain ⟨t, ht, -⟩ := hshows step hs
    exact OrderedMap.contains_iff.2 ⟨t, ht⟩
  · rw [hpath]
    refine h.transitions.imp fun a b hab => ?_
    rw [Script.nextSteps_of_freeze_eq script]
    exact hab
  · exact fun x hx =>
      (congrArg Option.isSome (congrFun (congrFun hchoice x.1) x.2)).trans (h.choices x hx)
  · intro x hx
    have hmem : x ∈ e.store.values.entries := (List.mem_filter.1 hx).1
    exact (typed x.1 x.2 (OrderedMap.get?_eq_some_iff.2 hmem)).congr schema

/-- Restoring a snapshot that suits and can be logged: the engine stands where the snapshot says. Only a listener
can still fail. -/
theorem restore_of_suits {s : Snapshot} (h : e.Suits s) (logged : Store.logAll s.values.entries = .ok ()) :
    let e' := (restore s).after e
    e'.current = s.current ∧ Represents e'.current e'.cameFrom s.history ∧ e'.selected = s.choices ∧
      e'.store.values = s.values ∧ (e.Quiet → (restore s).outcome e = .ok ()) := by
  obtain ⟨links, hrep, hcheck⟩ := check_of_suits h
  have heq := restore_accepted hcheck logged
  obtain ⟨told, ht⟩ := after_report (.ok ()) (restoreEvents e.current _)
    (e.adopted ⟨s.current, links, s.choices, s.values⟩)
  have hafter := (Act.after_congr heq).trans ht
  intro e'
  refine ⟨congrArg current hafter, ?_, congrArg selected hafter,
    congrArg (fun x => x.store.values) hafter, fun q => ?_⟩
  · have hlinks : e'.cameFrom = links := congrArg cameFrom hafter
    have hcurrent : e'.current = s.current := congrArg current hafter
    rw [hlinks, hcurrent]
    exact hrep
  · have q' : (e.adopted ⟨s.current, links, s.choices, s.values⟩).Quiet := q
    rw [Act.outcome_congr heq, outcome_report, q'.firstObjection]

/-- A snapshot that suits and cannot be logged breaks the restore off. -/
theorem restore_of_long {s : Snapshot} {err : Error} (h : e.Suits s)
    (long : Store.logAll s.values.entries = .error err) : (restore s).outcome e = .error .tooManyDigits := by
  obtain ⟨links, -, hcheck⟩ := check_of_suits h
  obtain ⟨rfl, -⟩ := Store.made_of_logAll_error long
  exact Act.outcome_error (restore_interrupted hcheck long)

/-- The snapshot of a state that was reached suits every new engine for the script. -/
theorem run_suits {e₀ e₁ : Engine} (fresh : e₀.Fresh) (fresh' : e₁.Fresh)
    (script : e₁.script.freeze = e₀.script.freeze) {ops : List Operation}
    (hops : ∀ op ∈ ops, op.isRestore = false) :
    (∃ P, (e₀.run ops).Tracked P) ∧ e₁.script.freeze = (e₀.run ops).script.freeze ∧
      e₁.store.schema = (e₀.run ops).store.schema ∧ e₁.Suits (e₀.run ops).snapshot := by
  obtain ⟨hk, hr⟩ := run_keeps fresh.ready ops
  obtain ⟨P, hP⟩ := run_tracked fresh.ready (.nil fresh) hops
  have hscript : e₁.script.freeze = (e₀.run ops).script.freeze := script.trans hk.script.symm
  have hschema : e₁.store.schema = (e₀.run ops).store.schema :=
    fresh'.ready.schema.trans ((congrArg Script.schema hscript).trans hr.schema.symm)
  exact ⟨⟨P, hP⟩, hscript, hschema, hP.suits hr.typed hscript hschema⟩

/-- The values of a snapshot are the values that are not blank. -/
theorem value_snapshot (id : Int) : (e.snapshot.values.get? id).getD .unset =
    if (e.store.value id).isBlank then .unset else e.store.value id := by
  rw [OrderedMap.get?_of_filter (m := e.store.values) (p := fun v => !v.isBlank) rfl, Store.value]
  cases e.store.values.get? id with
  | none => rfl
  | some v => cases hv : v.isBlank <;> simp [Option.filter, hv]

/-- A snapshot is determined by the position, the path, the choices and the values that are kept. -/
theorem snapshot_eq {s : Snapshot} (current : e'.current = s.current) (path : e'.path = s.history)
    (selected : e'.selected = s.choices) (values : e'.store.values = s.values)
    (filled : ∀ x ∈ s.values.entries, x.2.isBlank = false) : e'.snapshot = s := by
  have hvalues : e'.snapshot.values = s.values := by
    apply OrderedMap.ext
    change e'.store.values.entries.filter _ = _
    rw [values, List.filter_eq_self]
    intro x hx
    rw [filled x hx]
    rfl
  cases s
  unfold snapshot at hvalues ⊢
  simp only [Snapshot.mk.injEq]
  exact ⟨current, hvalues, path, selected⟩

/-- Restoring the snapshot of a tracked state where it suits: the path, the values that are not blank and
the snapshot are the same. -/
theorem Tracked.restored {e₁ : Engine} (h : e.Tracked P) (suits : e₁.Suits e.snapshot)
    (logged : Store.logAll e.snapshot.values.entries = .ok ()) :
    let e' := (restore e.snapshot).after e₁
    e'.OnPath P ∧
      (∀ id, e'.store.value id =
        if (e.store.value id).isBlank then .unset else e.store.value id) ∧
      e'.snapshot = e.snapshot := by
  obtain ⟨hcurrent, hrep, hselected, hvalues, -⟩ := restore_of_suits suits logged
  intro e'
  have hhistory : e.snapshot.history = P := h.onPath.path_eq
  have hpath : e'.OnPath P := hhistory ▸ hrep
  refine ⟨hpath, fun id => ?_, ?_⟩
  · exact (congrArg (fun m => (m.get? id).getD .unset) hvalues).trans (value_snapshot id)
  · refine snapshot_eq hcurrent (hpath.path_eq.trans hhistory.symm) hselected hvalues ?_
    intro x hx
    have hfilled := (List.mem_filter.1 hx).2
    simpa using hfilled

/-- **The round trip.** The snapshot of a state that was reached without restoring is accepted by every new
engine for the script, if all its values can be logged; otherwise restoring breaks off while it writes them, and
for no other reason. Where it is accepted, the engine then stands where the snapshot was taken: at the same step
of the same path, with the same choices and the values that are not blank. Its own snapshot is the same. -/
theorem restore_snapshot {e₀ e₁ : Engine} (fresh : e₀.Fresh) (fresh' : e₁.Fresh) (quiet : e₁.Quiet)
    (script : e₁.script.freeze = e₀.script.freeze) (ops : List Operation)
    (hops : ∀ op ∈ ops, op.isRestore = false) :
    let e := e₀.run ops
    let e' := (restore e.snapshot).after e₁
    ((restore e.snapshot).outcome e₁ = if e.snapshot.isLoggable then .ok () else .error .tooManyDigits) ∧
      (e.snapshot.isLoggable = true →
        e'.current = e.current ∧ e'.history = e.history ∧ e'.previous = e.previous ∧ e'.selected = e.selected ∧
        (∀ id, e'.store.value id =
          if (e.store.value id).isBlank then .unset else e.store.value id) ∧
        e'.snapshot = e.snapshot) := by
  intro e e'
  obtain ⟨⟨P, hP⟩, -, -, hsuits⟩ := run_suits fresh fresh' script hops
  cases hlog : e.snapshot.isLoggable with
  | false =>
    refine ⟨?_, fun h => nomatch h⟩
    rw [if_neg Bool.false_ne_true]
    exact restore_of_long hsuits (Store.logAll_of_not_areLoggable hlog)
  | true =>
    have logged := Store.logAll_of_areLoggable hlog
    obtain ⟨hcurrent, -, hselected, -, hout⟩ := restore_of_suits hsuits logged
    obtain ⟨hpath, hvalues, hsnapshot⟩ := hP.restored hsuits logged
    -- The path is the same, and with it all that is read off it.
    refine ⟨hout quiet, fun _ => ⟨hcurrent, ?_, ?_, hselected, hvalues, hsnapshot⟩⟩
    · rw [hpath.history_eq, hP.onPath.history_eq]
    · rw [hpath.previous_eq, hP.onPath.previous_eq]

/-- Past a call step, with a note: the snapshot is restored in an engine with other functions. -/
theorem restore_snapshot_relay :
    let e := (ofScript relay echoes).run [.start, .setValue 1 (.text "x"), .advance]
    let e' := (restore e.snapshot).after (ofScript relay .empty)
    (restore e.snapshot).outcome (ofScript relay .empty) = .ok () ∧ e'.current = some 3 ∧
      e'.history = [1] ∧ e'.snapshot = e.snapshot := by
  intro e e'
  obtain ⟨hout, hkept⟩ := restore_snapshot relay_fresh
    (ofScript_fresh relay_built .empty) (ofScript_quiet _ _) rfl
    [.start, .setValue 1 (.text "x"), .advance] (by simp [Operation.isRestore])
  have hlog : e.snapshot.isLoggable = true := by decide +kernel
  rw [if_pos hlog] at hout
  obtain ⟨hcurrent, hhistory, -, -, -, hsnapshot⟩ := hkept hlog
  have hrun : e.current = some 3 ∧ e.history = [1] := by decide +kernel
  exact ⟨hout, hcurrent.trans hrun.1, hhistory.trans hrun.2, hsnapshot⟩

/-- **A snapshot that cannot be restored**: the value that the second step was given is too long to be logged. -/
theorem census_not_restored :
    (ofScript census .empty).Fresh ∧ (ofScript census .empty).Quiet ∧
      let e := (ofScript census .empty).run [.start, .advance]
      e.current = some 2 ∧ ((restore e.snapshot).outcome (ofScript census .empty)).toOption = none :=
  ⟨census_fresh, ofScript_quiet _ _, by decide +kernel, by decide +kernel⟩

end Engine
end Walkthrough
