/-
# Where an engine stands

Every step of a path is a step of the script, and all but the first are say steps: a move reaches say steps
only, and a restored history follows transitions, which lead to say steps only. The first step of a history
has no transition before it, and restoring asks no more of it than that it exists. So a path begins at a
call step if a snapshot was restored whose path does, and going back leads onto it
(`back_to_call_step`). Apart from that an engine stands on say steps (`run_stands_on_say_steps`).
-/

import Walkthrough.Proofs.Engine.RoundTrip

namespace Walkthrough
namespace Engine

variable {e e' : Engine} {P : List Int} {Q : Int → Prop} {op : Operation}

/-- The steps of a history exist, and each but the first is a next say step of the one before. -/
theorem steps_of_checkedLinks {script : Script} {rest : List Int} :
    ∀ {previous : Option Int} {links out : OrderedMap Int Int},
      checkedLinks script previous links rest = .ok out →
        (∀ step ∈ rest, script.hasStep step = true) ∧
          (previous.toList ++ rest).IsChain fun a b => b ∈ script.nextSteps a := by
  induction rest with
  | nil =>
    intro previous links out _
    cases previous with
    | none => exact ⟨by simp, .nil⟩
    | some previous => exact ⟨by simp, .singleton previous⟩
  | cons step rest ih =>
    intro previous links out h
    unfold checkedLinks at h
    split at h
    · cases h
    next hstep =>
      have hstep : script.hasStep step = true := by simpa using hstep
      split at h
      · obtain ⟨hrest, hchain⟩ := ih h
        exact ⟨List.forall_mem_cons.2 ⟨hstep, hrest⟩, hchain⟩
      · next previous =>
        split at h
        · next hnext =>
          obtain ⟨hrest, hchain⟩ := ih h
          exact ⟨List.forall_mem_cons.2 ⟨hstep, hrest⟩,
            List.isChain_cons_cons.2 ⟨List.contains_iff_mem.1 hnext, hchain⟩⟩
        · cases h

/-- **An engine stands on a path of say steps**, but that the first step of the path may be any step of the
script that `Q` allows for. -/
structure Stands (e : Engine) (Q : Int → Prop) (P : List Int) : Prop where
  onPath : e.OnPath P
  steps : ∀ step ∈ P, e.script.Shows step ∨
    P.head? = some step ∧ e.script.hasStep step = true ∧ Q step

namespace Stands

theorem nil (f : e.Fresh) : e.Stands Q [] := ⟨(Tracked.nil f).onPath, by simp⟩

/-- The path may be cut, and the script closed to changes. -/
theorem cut {P' : List Int} (h : e.Stands Q P) (script : e'.script.freeze = e.script.freeze)
    (onPath : e'.OnPath P') (pre : P' <+: P) : e'.Stands Q P' := by
  obtain ⟨B, rfl⟩ := pre
  refine ⟨onPath, fun step hs => ?_⟩
  rw [Script.shows_of_freeze_eq script, Script.hasStep_of_freeze_eq script]
  refine (h.steps step (List.mem_append_left B hs)).imp_right fun ⟨hhead, hrest⟩ => ⟨?_, hrest⟩
  cases P' with
  | nil => cases hs
  | cons first rest => exact hhead

/-- A say step is put behind the path. -/
theorem push {t : Int} (h : e.Stands Q P) (script : e'.script.freeze = e.script.freeze)
    (onPath : e'.OnPath (P ++ [t])) (shows : e.script.Shows t) : e'.Stands Q (P ++ [t]) := by
  refine ⟨onPath, fun step hs => ?_⟩
  rw [Script.shows_of_freeze_eq script, Script.hasStep_of_freeze_eq script]
  rcases List.mem_append.1 hs with hs | hs
  · refine (h.steps step hs).imp_right fun ⟨hhead, hrest⟩ => ⟨?_, hrest⟩
    rw [List.head?_append, hhead]
    rfl
  · obtain rfl := List.mem_singleton.1 hs
    exact .inl shows

/-- A move reaches a say step. -/
theorem arrive (h : e.Stands Q P) (w : e.script.WellFormed) {step : Step} {c : Chain}
    (way : e.travel true = (.ok step, c)) (made : e.isStarted = true ∨ step.isLoggable = true) :
    ∃ P', (e.moved (.ok step, c)).Stands Q P' := by
  obtain ⟨P', hstep, hP'⟩ := onPath_of_arrival c h.onPath made
  obtain ⟨hsay, hfound, -⟩ := travel_ok w way
  have hscript : (e.moved (.ok step, c)).script.freeze = e.script.freeze := setOut_keeps.script
  have hshows : e.script.Shows step.id := ⟨step, hfound, hsay⟩
  refine ⟨P', ?_⟩
  generalize step.id = t at hstep hshows
  cases hstep with
  | @rewind A B =>
    have pre : A ++ [t] <+: A ++ t :: B := ⟨B, by rw [List.append_assoc, List.singleton_append]⟩
    exact h.cut hscript hP' pre
  | push => exact h.push hscript hP' hshows

/-- A restored path consists of say steps, its first step apart. -/
theorem restore {s : Snapshot} {r : Restored} (checked : e.check s = .ok r)
    (hQ : ∀ first, s.path.head? = some first → Q first) : (e.adopted r).Stands Q s.path := by
  obtain ⟨-, -, hlinks, -, -⟩ := check_parts checked
  obtain ⟨hsteps, hchain⟩ := steps_of_checkedLinks hlinks
  have hscript : (e.adopted r).script.freeze = e.script.freeze := rfl
  refine ⟨(check_ok checked).2.1, fun step hs => ?_⟩
  rw [Script.shows_of_freeze_eq hscript, Script.hasStep_of_freeze_eq hscript]
  obtain ⟨A, B, hpath⟩ := List.append_of_mem hs
  cases A using List.reverseRecOn with
  | nil =>
    have hhead : s.path.head? = some step := by rw [hpath]; rfl
    exact .inr ⟨hhead, hsteps step hs, hQ step hhead⟩
  | append_singleton A before _ =>
    -- The step before it has a transition to it.
    rw [Option.toList_none, List.nil_append, hpath, List.append_assoc] at hchain
    have hnext := (List.isChain_cons_cons.1 hchain.right_of_append).1
    exact .inl (Script.shows_of_mem_nextSteps hnext)

end Stands

/-- **What an operation does** leaves the engine on such a path. -/
theorem Effect.stands {x : Except Error (Option Int)} (h : Effect e op x e') (w : e.script.WellFormed)
    (hP : e.Stands Q P)
    (hQ : ∀ s, op = .restore s → ∀ first, s.path.head? = some first → Q first) :
    ∃ P', e'.Stands Q P' := by
  have stays : ∀ {e'' : Engine}, e.Stays e'' → e''.Stands Q P := fun hs =>
    hP.cut hs.script (hs.onPath hP.onPath) (List.prefix_refl P)
  cases h with
  | refused => exact ⟨P, hP⟩
  | halted => exact ⟨P, hP.cut setOut_keeps.script (onPath_of_halt hP.onPath) (List.prefix_refl P)⟩
  | started _ way logged => exact hP.arrive w way (.inr logged)
  | advanced way logged => exact hP.arrive w way (.inr logged)
  | fell _ first _ long =>
    exact ⟨P, hP.cut setOut_keeps.script (onPath_of_fall hP.onPath first long) (List.prefix_refl P)⟩
  | stumbled current way => exact hP.arrive w way (.inl (by rw [isStarted, current]; rfl))
  | @wentBack left previous current link =>
    obtain ⟨P', hstep, hP'⟩ := ((Effect.wentBack current link).onPath hP.onPath).1 _ rfl
    cases hstep with
    | @back R _ t =>
      have pre : R ++ [previous] <+: R ++ [previous, t] := ⟨[t], by rw [List.append_assoc]; rfl⟩
      exact ⟨R ++ [previous], hP.cut rfl hP' pre⟩
  | wrote hs => exact ⟨P, stays hs⟩
  | wroteChoice hs => exact ⟨P, stays hs⟩
  | chose hs => exact ⟨P, (stays hs).onPath, (stays hs).steps⟩
  | restored checked => exact ⟨_, .restore checked (hQ _ rfl)⟩
  | interrupted => exact ⟨P, hP.cut rfl hP.onPath (List.prefix_refl P)⟩

/-- **Every operation** leaves the engine on such a path, if `Q` allows for a path that it restores. -/
theorem after_stands (r : e.Ready) (h : e.Stands Q P) (op : Operation)
    (hQ : ∀ s, op = .restore s → ∀ first, s.path.head? = some first → Q first) :
    ∃ P', (op.act.after e).Stands Q P' := by
  obtain ⟨x, events, e', told, heffect, hafter, -⟩ := does r op
  obtain ⟨P', hP'⟩ := heffect.stands r.wellFormed h hQ
  rw [hafter]
  exact ⟨P', hP'.onPath, hP'.steps⟩

/-- **Every run** leaves the engine on such a path, if `Q` allows for the paths that are restored. -/
theorem run_stands (r : e.Ready) (h : e.Stands Q P) {ops : List Operation}
    (hQ : ∀ s, .restore s ∈ ops → ∀ first, s.path.head? = some first → Q first) :
    ∃ P', (e.run ops).Stands Q P' := by
  induction ops generalizing e P with
  | nil => exact ⟨P, h⟩
  | cons op rest ih =>
    obtain ⟨P', hP'⟩ := after_stands r h op fun s hs => hQ s (hs ▸ List.mem_cons_self)
    exact ih (after_keeps r op).2 hP' fun s hs => hQ s (List.mem_cons_of_mem _ hs)

/-- **What a restored path begins at** decides whether the engine is on say steps only. -/
theorem path_restore_shows_iff {s : Snapshot} {r : Restored} (checked : e.check s = .ok r)
    (logged : Store.logAll r.values.entries = .ok ()) :
    (∀ step ∈ ((restore s).after e).path, e.script.Shows step) ↔
      ∀ first, s.path.head? = some first → e.script.Shows first := by
  have hstays := report_stays (.ok ()) (restoreEvents e.current r) (e.adopted r)
  have hstands := Stands.restore (Q := fun first => s.path.head? = some first) checked fun _ h => h
  have hpath : ((restore s).after e).path = s.path := by
    rw [Act.after_congr (restore_accepted checked logged)]
    exact (hstays.onPath hstands.onPath).path_eq
  rw [hpath]
  refine ⟨fun h first hfirst => h first (List.mem_of_head? hfirst), fun h step hs => ?_⟩
  rcases hstands.steps step hs with hshows | ⟨hhead, -, -⟩
  · exact hshows
  · exact h step hhead

/-- **Where an engine stands.** After any run of a new engine the current step is on the path, and every step
of the path is a say step of the script, but that the path may begin at a call step if it does so in a
snapshot that was restored. So the engine never stands on a call step if no restored path begins at one;
and restoring puts a call step on the path exactly if the path of the snapshot begins at one, unless it breaks
off before it comes to the path, because a value cannot be logged. -/
theorem run_stands_on_say_steps (fresh : e.Fresh) (ops : List Operation) :
    let e' := e.run ops
    (∀ current, e'.current = some current → current ∈ e'.path) ∧
      (∀ step ∈ e'.path, e.script.Shows step ∨ e'.path.head? = some step ∧
        e.script.hasStep step = true ∧ ∃ s, .restore s ∈ ops ∧ s.path.head? = some step) ∧
      ((∀ s, .restore s ∈ ops → ∀ first, s.path.head? = some first → e.script.Shows first) →
        ∀ step ∈ e'.path, e.script.Shows step) ∧
      ∀ s r, e'.check s = .ok r → Store.logAll r.values.entries = .ok () →
        ((∀ step ∈ ((restore s).after e').path, e.script.Shows step) ↔
          ∀ first, s.path.head? = some first → e.script.Shows first) := by
  intro e'
  obtain ⟨hk, -⟩ := run_keeps fresh.ready ops
  have hshows := Script.shows_of_freeze_eq hk.script
  have hknown := Script.hasStep_of_freeze_eq hk.script
  obtain ⟨P, hP⟩ := run_stands (Q := fun first => ∃ s, .restore s ∈ ops ∧ s.path.head? = some first)
    fresh.ready (.nil fresh) fun s hs first hfirst => ⟨s, hs, hfirst⟩
  have hpath : e'.path = P := hP.onPath.path_eq
  rw [← hshows, ← hknown, hpath]
  refine ⟨fun current hc => ?_, hP.steps, fun hheads step hs => ?_, fun s r checked logged => ?_⟩
  · exact List.mem_of_getLast? (hP.onPath.last.trans hc)
  · rcases hP.steps step hs with h | ⟨-, -, s, hop, hhead⟩
    · exact h
    · exact hheads s hop step hhead
  · exact path_restore_shows_iff checked logged

/-- A path that is restored at the second say step of a relay, from the first on. -/
theorem relay_stands_on_say_steps :
    let s : Snapshot := { current := some 3, history := [1, 3] }
    let e := (ofScript relay echoes).run [.start, .restore s, .back]
    e.current = some 1 ∧ ∀ step ∈ e.path, relay.Shows step := by
  intro s e
  obtain ⟨-, -, hshows, -⟩ := run_stands_on_say_steps relay_fresh [.start, .restore s, .back]
  rw [script_ofScript] at hshows
  refine ⟨by decide +kernel, hshows fun s' hs first hfirst => ?_⟩
  obtain rfl : s' = s := by simpa using hs
  obtain rfl : 1 = first := Option.some.inj hfirst
  have hsay : (relay.step? 1).map Step.isSay = some true := by decide +kernel
  exact Option.map_eq_some_iff.1 hsay

/-- **Back to a call step.** A snapshot whose path begins at the call step of a relay is accepted, and then
going back leads onto the call step. -/
theorem back_to_call_step :
    (ofScript relay echoes).Fresh ∧
      let s : Snapshot := { current := some 3, history := [2, 3] }
      let e := (ofScript relay echoes).run [.restore s]
      ((restore s).outcome (ofScript relay echoes)).toOption = some () ∧ e.path = [2, 3] ∧
        (e.run [.back]).current = some 2 ∧ ¬relay.Shows 2 := by
  refine ⟨relay_fresh, by decide +kernel, by decide +kernel, by decide +kernel, ?_⟩
  rintro ⟨t, ht, hsay⟩
  have hcall : (relay.step? 2).map Step.isSay = some false := by decide +kernel
  rw [ht, Option.map_some, hsay] at hcall
  cases hcall

end Engine
end Walkthrough
