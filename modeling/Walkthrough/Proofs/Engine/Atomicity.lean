/-
# What a restore that fails leaves

Restoring checks all of a snapshot before it changes anything, so that a refusal leaves the engine as it is
(`restore_refused`). Then it closes the script, empties the store and writes the saved values, and there is
no way back from there. The values were converted in the check, and a converted value is converted to itself,
so that each of them can be written into any store of the schema, whatever was written before it
(`set_of_check`). What the check does not ask is whether they can be logged: at the first that cannot, the
restore breaks off, with the old values gone (`interrupted`).
-/

import Walkthrough.Proofs.Engine.Run

namespace Walkthrough
namespace Engine

variable {e : Engine} {s : Snapshot} {r : Restored}

/-- **A value that was checked can be written** at any time; only its log can fail. -/
theorem set_of_check (h : e.check s = .ok r) {x : Int × Value} (hx : x ∈ r.values.entries) {t : Store}
    (ht : t.schema = e.store.schema) : t.set x.1 x.2 = (Store.log x.1 x.2, t.write x.1 x.2) :=
  Store.set_of_fits (((check_ok h).2.2 x hx).congr ht)

/-- All that was checked can be written one after the other, once the store was emptied, if it can be logged. -/
theorem writeAll_of_check (h : e.check s = .ok r) : (writeAll r.values.entries).outcome
    { e with script := e.script.freeze, store := e.store.reset } = Store.logAll r.values.entries := by
  have hfits : ∀ x ∈ r.values.entries, e.store.reset.Fits x.1 x.2 :=
    fun x hx => ((check_ok h).2.2 x hx).congr rfl
  exact outcome_writeAll (e := { e with script := e.script.freeze, store := e.store.reset }) hfits

/-- What was checked and can be logged is put in place of the state, and listeners are told of it. -/
theorem after_restore_of_check (h : e.check s = .ok r) (logged : Store.logAll r.values.entries = .ok ()) :
    ∃ told, (restore s).after e = { e.adopted r with emitted := e.emitted ++ told } := by
  obtain ⟨told, htold⟩ := after_report (.ok ()) (restoreEvents e.current r) (e.adopted r)
  exact ⟨told, (Act.after_congr (restore_accepted h logged)).trans htold⟩

/-- Only a listener could stop it. -/
theorem outcome_restore_of_check (quiet : e.Quiet) (h : e.check s = .ok r)
    (logged : Store.logAll r.values.entries = .ok ()) : (restore s).outcome e = .ok () := by
  have quiet' : (e.adopted r).Quiet := quiet
  rw [Act.outcome_congr (restore_accepted h logged), outcome_report, quiet'.firstObjection]

/-- **What a restore does**, where listeners do not fail. If the check of the snapshot fails, so does the restore,
and the engine is as it was before: its values in their order, position, links and choices, the script with its
closing, and what listeners were told. If the check succeeds and all values can be logged, the snapshot takes the
place of the state. Otherwise the restore breaks off: the script is closed, the old values are gone, and the saved
ones are written up to the first that cannot be logged; position, links and choices are as they were, and listeners
are told nothing. No write fails for any other reason. -/
theorem restore_all_or_nothing (quiet : e.Quiet) (s : Snapshot) :
    (∀ err, e.check s = .error err → (restore s).outcome e = .error err ∧ (restore s).after e = e) ∧
      ∀ r, e.check s = .ok r →
        (Store.logAll r.values.entries = .ok () → (restore s).outcome e = .ok () ∧
          ∃ told, (restore s).after e = { e.adopted r with emitted := e.emitted ++ told }) ∧
        (∀ err, Store.logAll r.values.entries = .error err → (restore s).outcome e = .error .tooManyDigits ∧
          (restore s).after e = { e with
            script := e.script.freeze
            store := e.store.reset.overwritten (Store.made r.values.entries) }) ∧
        (writeAll r.values.entries).outcome { e with script := e.script.freeze, store := e.store.reset } =
          Store.logAll r.values.entries ∧
        ∀ x ∈ r.values.entries, ∀ t : Store, t.schema = e.store.schema →
          t.set x.1 x.2 = (Store.log x.1 x.2, t.write x.1 x.2) := by
  refine ⟨fun err herr => ?_, fun r hr => ⟨fun logged => ?_, fun err long => ?_, ?_, fun x hx t ht => ?_⟩⟩
  · exact ⟨Act.outcome_error (restore_refused herr), Act.after_error (restore_refused herr)⟩
  · exact ⟨outcome_restore_of_check quiet hr logged, after_restore_of_check hr logged⟩
  · obtain ⟨rfl, -⟩ := Store.made_of_logAll_error long
    exact ⟨Act.outcome_error (restore_interrupted hr long), Act.after_error (restore_interrupted hr long)⟩
  · exact writeAll_of_check hr
  · exact set_of_check hr hx ht

/-- Under way in a relay: a snapshot with a choice that does not exist is refused, one without it is put in
place of the state. -/
theorem relay_restores_all_or_nothing :
    let e := (ofScript relay echoes).run [.start, .setValue 1 (.text "x")]
    let s : Snapshot := { current := some 3, values := .ofList [(1, .int 7)], history := [1, 3] }
    let s' : Snapshot := { s with choices := .ofList [(1, 1)] }
    e.Quiet ∧ (restore s').after e = e ∧ ∃ r, e.check s = .ok r ∧ (restore s).outcome e = .ok () := by
  intro e s s'
  have quiet : e.Quiet := (run_keeps relay_fresh.ready _).1.quiet (ofScript_quiet relay echoes)
  obtain ⟨hnothing, -⟩ := restore_all_or_nothing quiet s'
  obtain ⟨-, hall⟩ := restore_all_or_nothing quiet s
  have hrefused : (e.check s').toOption.isSome = false := by decide +kernel
  have hchecked : ((e.check s).toOption.map fun r => Store.areLoggable r.values.entries) = some true := by
    decide +kernel
  refine ⟨quiet, ?_, ?_⟩
  · cases hr : e.check s' with
    | error err => exact (hnothing err hr).2
    | ok r => rw [hr] at hrefused; cases hrefused
  · cases hr : e.check s with
    | error err => rw [hr] at hchecked; cases hchecked
    | ok r =>
      rw [hr] at hchecked
      exact ⟨r, rfl, ((hall r hr).1 (Store.logAll_of_areLoggable (Option.some.inj hchecked))).1⟩

/-- **A restore that fails has emptied the store**: the value of the snapshot is written, and cannot be logged. -/
theorem census_half_restored :
    let e := (ofScript census .empty).run [.start, .setValue 1 (.int 7)]
    let s : Snapshot := { current := some 1, values := .ofList [(1, .int Number.myriads)] }
    e.Quiet ∧ ((restore s).outcome e).toOption = none ∧ (e.store.value 1).integer? = some 7 ∧
      (((restore s).after e).store.value 1).integer? ≠ some 7 :=
  ⟨(run_keeps census_fresh.ready _).1.quiet (ofScript_quiet census .empty), by decide +kernel, by decide +kernel,
    by decide +kernel⟩

end Engine
end Walkthrough
