/-
# Moves that go in a circle

The call steps that a move runs are a walk (`Walk`): it sets out at the first step or at the target of the
first rule that holds (`SetsOut`), goes from call step to call step in the same way, and comes to an end,
whatever the rules of the script are. No step is run twice.

| the walk comes to | `start` and `advance` | `nextStep` |
| --- | --- | --- |
| a say step | go there | it is the next step |
| a call step that leads nowhere | fail | there is no next step |
| a call step that was run in this move | fail with the steps of the walk | there is no next step |

The third case is told apart from the second exactly (`travel_looped_iff`): a move complains of a circle if and
only if its walk comes back. Only a function of the host can fail with the same complaint by itself
(`Relays`).
-/

import Walkthrough.Proofs.Engine.LookAhead
import Walkthrough.Proofs.Engine.Trail

namespace Walkthrough

/-- A result is straight if it is no complaint of a circle. -/
abbrev Straight {α : Type} (x : Except Error α) : Prop :=
  FailsOnly (fun err => ∀ chain, err ≠ .script (.looped chain)) x

theorem Error.ne_looped_of_isLocal {err : Error} (h : err.isLocal = true) (chain : List Int) :
    err ≠ .script (.looped chain) := by
  rintro rfl
  cases h

/-- A refusal that is raised is no complaint of a circle if it is none itself. -/
theorem Error.ne_looped_of_raised {cause : ScriptError} (h : ∀ chain, cause ≠ .looped chain) (chain : List Int) :
    .raised cause ≠ Error.script (.looped chain) := by
  obtain heq | heq := Error.raised_eq_or cause
  · rw [heq]
    exact fun hcause => h chain (Error.script.inj hcause)
  · rw [heq]
    exact fun htoo => nomatch htoo

/-- Errors about values are no complaints of a circle. -/
theorem FailsOnly.straight {α : Type} {x : Except Error α} (h : Local x) : Straight x :=
  h.mono fun _ => Error.ne_looped_of_isLocal

namespace Chain

variable {write : Bool} {script : Script} {step : Step} {f : FunctionCall} {c b d : Chain} {chain : List Int}

theorem onward_straight (c : Chain) (script : Script) (step : Step) (choice : Option Choice) :
    Straight (Engine.verdict (c.onward script step choice)) := by
  have hrules := (c.firstTarget_reads step.rules).toLocal.straight
  unfold onward
  split
  · exact .error fun _ h => nomatch h
  split
  · next err herr => exact .error (hrules err herr)
  · exact .error (Error.ne_looped_of_isLocal rfl)
  · next id _ =>
    unfold target
    cases script.step? id with
    | some next => exact .ok _
    | none => exact .error (Error.ne_looped_of_raised (fun _ h => nomatch h))

/-- A call step by itself does not find out that the chain goes in a circle. -/
theorem runStep_ne_looped : (runStep write script step f c).1 ≠ .error (.looped chain) := by
  have honward : ∀ d : Chain, d.onward script step none ≠ .error (.looped chain) := by
    intro d h
    have hstraight := d.onward_straight script step none
    rw [h] at hstraight
    exact hstraight _ rfl chain rfl
  rw [runStep_eq]
  split
  · exact fun h => nomatch h
  unfold pass
  split
  · exact fun h => nomatch h
  split
  · exact fun h => nomatch h
  · exact honward _

/-- Only the function itself can make a call fail with such a complaint. -/
theorem callFunction_eq_error_iff (write : Bool) :
    (callFunction write f b).1 = .error (.script (.looped chain)) ↔ b.HostFails f (.script (.looped chain)) := by
  refine ⟨fun h => (callFunction_error h).resolve_left fun hreading => ?_, ?_⟩
  · exact Error.ne_looped_of_isLocal (Error.isLocal_of_isReading hreading) chain rfl
  · rintro ⟨arguments, registered, g, hargs, hprintable, hg, hrun⟩
    unfold callFunction Registry.call
    simp only [hargs, hprintable, hg, hrun, if_true]

/-- Only the function of a call step can make it fail with such a complaint. -/
theorem runStep_eq_looped_iff (script : Script) :
    (runStep write script step f { c with walked := c.walked ++ [step.id] }).1 =
        .error (.failed (.script (.looped chain))) ↔
      ∃ b, enter write step c = (.ok (), b) ∧ b.lacking step = [] ∧ b.HostFails f (.script (.looped chain)) := by
  have hlocal :=
    (putDefaults_reads write step.defaults.entries { c with walked := c.walked ++ [step.id] }).toLocal
  rw [runStep_eq_enter]
  rcases hb : enter write step c with ⟨err | _, b⟩
  · refine iff_of_false (fun h => ?_) (by rintro ⟨b', h, -⟩; cases h)
    obtain rfl : err = .script (.looped chain) := Halt.failed.inj (Except.error.inj h)
    exact Error.ne_looped_of_isLocal (hlocal _ (congrArg Prod.fst hb)) chain rfl
  · simp only [Prod.mk.injEq, true_and, exists_eq_left']
    cases hlacking : (b.lacking step).isEmpty with
    | false =>
      rw [pass_of_lacking hlacking]
      refine iff_of_false (fun h => nomatch h) fun h => ?_
      rw [h.1] at hlacking
      cases hlacking
    | true =>
      rw [pass_of_filled hlacking, List.isEmpty_iff.1 hlacking]
      simp only [true_and]
      refine Iff.trans ?_ (callFunction_eq_error_iff write)
      rcases callFunction write f b with ⟨err | _, d⟩
      · simp
      · have hstraight := d.onward_straight script step none
        refine iff_of_false (fun h => ?_) (fun h => nomatch h)
        have honward : d.onward script step none = .error (.failed (.script (.looped chain))) := h
        rw [honward] at hstraight
        exact hstraight _ rfl chain rfl

end Chain

namespace Engine

open Chain (Trail Ends Follows trailIds functionKeys)

variable {e : Engine} {write : Bool} {first : Step} {chain : List Int}

/-! ## Walks -/

/-- **Where a move sets out**: at the first step, or at the target of the first rule of the current step that
holds, once all that the current step requires is filled in. -/
def SetsOut (e : Engine) (first : Step) : Prop :=
  match e.current with
  | none => ∃ id, e.script.first = some id ∧ e.script.step? id = some first
  | some current => ∃ here, e.script.step? current = some here ∧
      Chain.missing e.store here (e.selectedChoice current) = [] ∧
        (e.newChain [current]).Leads e.script here.rules first

theorem departure_eq_ok_iff : e.departure = .ok first ↔ e.SetsOut first := by
  unfold departure SetsOut
  cases e.current with
  | none =>
    dsimp only
    cases e.script.first with
    | none => simp
    | some id =>
      simp only [Option.some.injEq, exists_eq_left', ← Chain.target_eq_ok_iff]
      cases Chain.target e.script id <;> simp
  | some current =>
    dsimp only
    simp only [← Chain.target_eq_ok_iff, ← Chain.onward_eq_ok_iff (e.selectedChoice current)]
    cases Chain.target e.script current with
    | error err => simp
    | ok here =>
      simp only [Except.ok.injEq, exists_eq_left', Bool.not_eq_true', List.isEmpty_eq_false_iff]
      split
      · next hmissing => simp [hmissing]
      · next hmissing => simp [not_not.1 hmissing]

theorem SetsOut.step?_eq (w : e.script.WellFormed) (h : e.SetsOut first) :
    e.script.step? first.id = some first := by
  obtain ⟨id, hstep, -⟩ := departure_ok (departure_eq_ok_iff.2 h)
  rwa [w.keyed hstep]

/-- Setting out does not show that a move goes in a circle. -/
theorem departure_straight (e : Engine) : Straight (verdict e.departure) := by
  have htarget : ∀ id err, Chain.target e.script id = .error err → ∀ chain, err ≠ .script (.looped chain) := by
    intro id err h
    unfold Chain.target at h
    split at h
    · cases h
    · obtain rfl := Except.error.inj h
      exact Error.ne_looped_of_raised fun _ h => nomatch h
  unfold departure
  split
  · split
    · exact .error fun _ h => nomatch h
    · split
      · next err herr => exact .error (htarget _ err herr)
      · exact .ok _
  · split
    · next err herr => exact .error (htarget _ err herr)
    · dsimp only
      split
      · exact .error fun _ h => nomatch h
      · exact Chain.onward_straight _ _ _ _

/-- **The walk of a move**: the call steps that it passes, each with the chain that comes to it, and where it
ends. `begun` is the call step that was run without leading on, if there is one. -/
structure Walk (e : Engine) (write : Bool) (first : Step) (path : List (Step × Chain)) (last : Step × Chain)
    (begun : Option Step) : Prop where
  setsOut : e.SetsOut first
  trail : Trail write e.script (first, e.newChain e.current.toList) path last
  follows : (path ++ [last]).IsChain (Follows e.script e.store)
  ends : Ends write e.script (trailIds path) last begun (e.travel write).1 (e.travel write).2
  /-- No step is run twice. -/
  once : ((path.map Prod.fst ++ begun.toList).map Step.id).Nodup
  /-- No function is called but those of the steps that are run, each at most once for its step. -/
  calls : ∃ made, (e.travel write).2.registry.calls = e.registry.calls ++ made ∧
    (made.map Call.key).Sublist (functionKeys (path.map Prod.fst ++ begun.toList))

/-- **The walk leads back** to a call step that was run in this move. `chain` are the current step, the call
steps that were run in order, and the step that is come back to. -/
def Returns (e : Engine) (write : Bool) (chain : List Int) : Prop :=
  ∃ first path last, e.SetsOut first ∧
    Trail write e.script (first, e.newChain e.current.toList) path last ∧ (trailIds path).Nodup ∧
      last.1.id ∈ trailIds path ∧ chain = e.current.toList ++ trailIds path ++ [last.1.id]

/-- A function of the host, called at a call step of the walk, fails with the complaint by itself. -/
def Relays (e : Engine) (write : Bool) (chain : List Int) : Prop :=
  ∃ first path last f b, e.SetsOut first ∧
    Trail write e.script (first, e.newChain e.current.toList) path last ∧ (trailIds path).Nodup ∧
      last.1.body = .call f ∧ last.1.id ∉ trailIds path ∧ Chain.enter write last.1 last.2 = (.ok (), b) ∧
        b.lacking last.1 = [] ∧ b.HostFails f (.script (.looped chain))

theorem travel_of_setsOut (h : e.SetsOut first) : e.travel write =
    Chain.run write e.script (Chain.fuel e.script) [] first (e.newChain e.current.toList) := by
  unfold travel
  rw [departure_eq_ok_iff.2 h]

/-- **Every move that sets out has a walk.** -/
theorem exists_walk (r : e.Ready) (write : Bool) (h : e.SetsOut first) :
    ∃ path last begun, e.Walk write first path last begun := by
  have hstep := h.step?_eq r.wellFormed
  obtain ⟨path, last, begun, htrail, hnodup, hends⟩ :=
    Chain.exists_trail write (c := e.newChain e.current.toList) r.wellFormed List.nodup_nil
      (List.nil_subset _) (Nat.le_refl _) hstep
  rw [List.append_nil, (List.reverse_perm _).nodup_iff] at hnodup
  have hends : Ends write e.script (trailIds path) last begun (e.travel write).1 (e.travel write).2 := by
    rw [travel_of_setsOut h]
    exact hends.congr (by simp)
  refine ⟨path, last, begun, h, htrail, ?_, hends, ?_, ?_⟩
  · exact htrail.follows r.wellFormed r.schema hstep (newChain_sim _ (.refl _) rfl)
  · rw [List.map_append, List.map_map, List.nodup_append]
    refine ⟨hnodup, ?_, ?_⟩
    · cases begun <;> simp
    · rintro id hid _ hbegun rfl
      obtain ⟨step, hstep, rfl⟩ := List.mem_map.1 hbegun
      exact hends.not_mem step (Option.mem_toList.1 hstep) hid
  · obtain ⟨made, hmade, hkeys⟩ := htrail.calls
    obtain ⟨more, hmore, hkey⟩ := hends.calls
    refine ⟨made ++ more, by rw [hmore, hmade, List.append_assoc]; rfl, ?_⟩
    rw [List.map_append, functionKeys, List.flatMap_append]
    exact hkeys.append hkey

theorem Walk.nodup {path : List (Step × Chain)} {last : Step × Chain} {begun : Option Step}
    (h : e.Walk write first path last begun) : (trailIds path).Nodup := by
  have honce := h.once
  rw [List.map_append, List.map_map] at honce
  exact (List.nodup_append.1 honce).1

/-! ## Circles -/

/-- **A move does what its walk says**, as far as the walk passes no step twice. -/
theorem travel_of_trail (r : e.Ready) (h : e.SetsOut first) {path : List (Step × Chain)} {last : Step × Chain}
    (trail : Trail write e.script (first, e.newChain e.current.toList) path last)
    (nodup : (trailIds path).Nodup) :
    e.travel write =
      Chain.run write e.script (Chain.fuel e.script - path.length) (trailIds path).reverse last.1 last.2 := by
  have hlength := (trail.length_le r.wellFormed (h.step?_eq r.wellFormed) nodup).1
  have hnodup : ((trailIds path).reverse ++ []).Nodup := by
    rwa [List.append_nil, (List.reverse_perm _).nodup_iff]
  have hrun := Chain.run_of_trail trail hnodup hlength
  rw [travel_of_setsOut h]
  rwa [List.append_nil] at hrun

/-- A move that complains of a circle has set out. -/
theorem exists_walk_of_looped (r : e.Ready) (write : Bool)
    (h : verdict (e.travel write).1 = .error (.script (.looped chain))) :
    ∃ first path last begun, e.Walk write first path last begun := by
  cases hd : e.departure with
  | error halt =>
    have hstraight := e.departure_straight
    unfold travel at h
    rw [hd] at h hstraight
    exact absurd rfl (hstraight _ h chain)
  | ok first => exact ⟨first, exists_walk r write (departure_eq_ok_iff.1 hd)⟩

/-- **A circle is found exactly** if the walk comes back to a call step that was run in this move. -/
theorem travel_looped_iff (r : e.Ready) :
    (e.travel write).1 = .error (.looped chain) ↔ e.Returns write chain := by
  constructor
  · intro h
    obtain ⟨first, path, last, begun, hwalk⟩ := exists_walk_of_looped r write (by rw [h]; rfl)
    have hends := hwalk.ends
    rw [h] at hends
    generalize (e.travel write).2 = d at hends
    cases hends with
    | returned body back =>
      refine ⟨first, path, last, hwalk.setsOut, hwalk.trail, hwalk.nodup, back, ?_⟩
      rw [hwalk.trail.walked]
      rfl
    | stopped body new stops => exact absurd (congrArg Prod.fst stops) Chain.runStep_ne_looped
  · rintro ⟨first, path, last, hout, htrail, hnodup, hback, rfl⟩
    obtain ⟨hpath, hlast⟩ := htrail.step?_eq r.wellFormed (hout.step?_eq r.wellFormed)
    obtain ⟨x, hx, hid⟩ := List.mem_map.1 hback
    have hsame : x.1 = last.1 := Option.some.inj ((hpath x hx).symm.trans (hid ▸ hlast))
    obtain ⟨f, hbody⟩ := htrail.body x hx
    rw [travel_of_trail r hout htrail hnodup, Chain.run_of_met (hsame ▸ hbody) (List.mem_reverse.2 hback),
      htrail.walked]
    rfl

/-- **Such a complaint comes from elsewhere** only if a function of the host makes it. -/
theorem travel_relayed_iff (r : e.Ready) :
    (e.travel write).1 = .error (.failed (.script (.looped chain))) ↔ e.Relays write chain := by
  constructor
  · intro h
    obtain ⟨first, path, last, begun, hwalk⟩ := exists_walk_of_looped r write (by rw [h]; rfl)
    have hends := hwalk.ends
    rw [h] at hends
    generalize (e.travel write).2 = d at hends
    cases hends with
    | stopped body new stops =>
      obtain ⟨b, hb⟩ := (Chain.runStep_eq_looped_iff e.script).1 (congrArg Prod.fst stops)
      exact ⟨first, path, last, _, b, hwalk.setsOut, hwalk.trail, hwalk.nodup, body, new, hb⟩
  · rintro ⟨first, path, last, f, b, hout, htrail, hnodup, hbody, hnew, hb⟩
    have hlength := (htrail.length_le r.wellFormed (hout.step?_eq r.wellFormed) hnodup).2 hnew
    obtain ⟨k, hk⟩ : ∃ k, Chain.fuel e.script - path.length = k + 1 :=
      Nat.exists_eq_add_one_of_ne_zero (Nat.sub_ne_zero_of_lt hlength)
    have hrun := (Chain.runStep_eq_looped_iff e.script).2 ⟨b, hb⟩
    rcases hstops : Chain.runStep write e.script last.1 f
        { last.2 with walked := last.2.walked ++ [last.1.id] } with ⟨result, d⟩
    rw [hstops] at hrun
    obtain rfl : result = .error (.failed (.script (.looped chain))) := hrun
    rw [travel_of_trail r hout htrail hnodup, hk, Chain.run_of_stopped hbody (by simpa using hnew) hstops]

/-! ## Operations -/

/-- **The complaint of a move** is that its walk comes back, or that of a function of the host. -/
theorem verdict_looped_iff (r : e.Ready) : verdict (e.travel write).1 = .error (.script (.looped chain)) ↔
    e.Returns write chain ∨ e.Relays write chain := by
  rw [← travel_looped_iff r, ← travel_relayed_iff r]
  rcases (e.travel write).1 with (_ | _ | _) | _ <;> simp [verdict]

/-- Nor does it matter whether the values can be logged that are written where the walk comes to a say step. -/
theorem verdict_landing_looped_iff (r : e.Ready) :
    verdict (landing (e.travel write).1) = .error (.script (.looped chain)) ↔
      e.Returns write chain ∨ e.Relays write chain := by
  rw [← verdict_looped_iff r]
  rcases (e.travel write).1 with halt | step
  · rfl
  cases hstep : step.isLoggable with
  | true => rw [landing_of_isLoggable hstep]
  | false =>
    rw [landing_of_not_isLoggable hstep]
    exact iff_of_false (fun h => nomatch h) fun h => nomatch h

/-- Listeners do not complain of circles, and they are not told of one. -/
theorem report_looped_iff {α : Type} {e' : Engine} (way : Except Halt Step) (g : Step → α) :
    (report ((verdict way).map g) (moveEvents e.current way)).outcome e' = .error (.script (.looped chain)) ↔
      verdict way = .error (.script (.looped chain)) := by
  rw [outcome_report]
  cases ho : e'.firstObjection (moveEvents e.current way) with
  | none =>
    rcases way with halt | step
    · cases halt <;> simp [verdict, Except.map]
    · simp [verdict, Except.map]
  | some err =>
    -- A listener is told something, so it is no complaint of a circle that is told of.
    obtain ⟨message, rfl⟩ := host_of_firstObjection ho
    refine iff_of_false (fun h => ?_) fun h => ?_
    · cases h
    · rcases way with (step | walked | err) | step
      · cases h
      · cases ho
      · cases ho
      · cases h

theorem registry_moved (e : Engine) (way : Except Halt Step × Chain) :
    (e.moved way).registry = way.2.registry := by
  obtain ⟨halt | step, c⟩ := way <;> rfl

/-- An engine that reports keeps its calls. -/
theorem registry_report {α : Type} {m : Act α} {x : Except Error α} {events : List Event} {e' : Engine}
    (h : m e = report x events e') : (m.after e).registry = e'.registry := by
  obtain ⟨told, htold⟩ := after_report x events e'
  rw [Act.after_congr h, htold]

/-- **How moves end.** Whatever the rules of the script are, the values in the store and the functions of the
host, a move that sets out has a walk: it comes to an end, it runs no step twice, and each step is followed by
the target of its first rule that holds of what was written so far. The move finds a circle exactly if the
walk comes back to a call step that it has run, and then the complaint lists the current step, the call steps
in the order they were run, and the step that was come back to. `start` and `advance` fail with that complaint,
and no other move does, unless a function of the host itself fails with it; looking ahead finds no next step. -/
theorem moves_end (r : e.Ready) :
    (∀ write, (∀ first, e.SetsOut first → ∃ path last begun, e.Walk write first path last begun) ∧
      ((∀ first, ¬e.SetsOut first) → (e.travel write).2 = e.newChain e.current.toList)) ∧
    (∀ write chain, (e.travel write).1 = .error (.looped chain) ↔ e.Returns write chain) ∧
    (∀ chain, start.outcome e = .error (.script (.looped chain)) ↔
      e.current = none ∧ (e.Returns true chain ∨ e.Relays true chain)) ∧
    (∀ chain, advance.outcome e = .error (.script (.looped chain)) ↔
      e.Returns true chain ∨ e.Relays true chain) ∧
    peek.outcome e = .ok ((e.travel false).1.toOption.map Step.id) ∧
    (e.current = none → (start.after e).registry = (e.travel true).2.registry) ∧
    (advance.after e).registry = (e.travel true).2.registry ∧
    (peek.after e).registry = (e.travel false).2.registry := by
  have hadvance := advance_eq r
  refine ⟨fun write => ⟨fun first => exists_walk r write, fun hstays => ?_⟩, fun _ _ => travel_looped_iff r,
    fun chain => ?_, fun chain => ?_, outcome_peek, fun hc => ?_, ?_, ?_⟩
  · cases hd : e.departure with
    | error halt =>
      unfold travel
      rw [hd]
    | ok first => exact absurd (departure_eq_ok_iff.1 hd) (hstays first)
  · cases hc : e.current with
    | none =>
      rw [Act.outcome_congr (start_eq r hc), report_looped_iff, verdict_landing_looped_iff r]
      exact (and_iff_right rfl).symm
    | some current =>
      rw [Act.outcome_error (start_eq_of_started hc)]
      exact iff_of_false (fun h => nomatch h) fun h => nomatch h.1
  · rw [Act.outcome_congr hadvance, report_looped_iff, verdict_landing_looped_iff r]
  · rw [registry_report (start_eq r hc), registry_moved]
  · rw [registry_report hadvance, registry_moved]
  · rw [Act.after_ok peek_eq]
    rfl

/-- The circle in which a way goes, if it goes in one. -/
def circle? : Except Halt Step → Option (List Int)
  | .error (.looped chain) => some chain
  | _ => none

theorem circle?_eq_some_iff {way : Except Halt Step} {chain : List Int} :
    circle? way = some chain ↔ way = .error (.looped chain) := by
  rcases way with (_ | _ | _) | _ <;> simp [circle?]

/-- A say step and two call steps that lead to each other. -/
def carousel : Script :=
  let up := blankSheet.withSay "Up" { id := .int 1, first := true, rules := [(none, .int 2)] }
  let call := up.withCall { name := "echo", result := some 1, properties := .ofList [("text", 1)] }
    { id := .int 2, rules := [(none, .int 3)] }
  call.withCall { name := "echo", result := some 1, properties := .ofList [("text", 1)] }
    { id := .int 3, rules := [(none, .int 2)] }

theorem carousel_fresh : (ofScript carousel echoes).Fresh :=
  ofScript_fresh (((blankSheet_built.withSay _ _).withCall _ _).withCall _ _) echoes

/-- Going on from the say step runs both call steps, and finds that they lead back. -/
theorem carousel_returns :
    let e := (ofScript carousel echoes).run [.start]
    e.Ready ∧ e.Returns true [1, 2, 3, 2] ∧ advance.outcome e = .error (.script (.looped [1, 2, 3, 2])) ∧
      peek.outcome e = .ok none := by
  intro e
  have hready : e.Ready := (run_keeps carousel_fresh.ready [.start]).2
  obtain ⟨-, hcircle, -, hadvance, hpeek, -⟩ := moves_end hready
  have hreturns : e.Returns true [1, 2, 3, 2] := (hcircle true _).1 (circle?_eq_some_iff.1 (by decide +kernel))
  have hforeseen : (e.travel false).1 = .error (.looped [1, 2, 3, 2]) := circle?_eq_some_iff.1 (by decide +kernel)
  refine ⟨hready, hreturns, (hadvance _).2 (.inl hreturns), ?_⟩
  rw [hpeek, hforeseen]
  rfl

end Engine
end Walkthrough
