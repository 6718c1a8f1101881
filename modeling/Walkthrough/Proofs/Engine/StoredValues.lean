/-
# Values in the store

Whatever is written to a store is converted to the type of its property first, and conversion leaves the
values of a type as they are (`PropertyType.convert_eq_self_iff`). Two things rest on that:

| values | were converted | so at run time |
| --- | --- | --- |
| in the store | when they were written | they are of the types of their properties (`Ready.admits`) |
| of choices, and defaults of steps | when the script was built | only the log can refuse them (`Store.set_of_fits`) |

Selecting a choice looks ahead and writes one value after the other. If all of them can be logged it cannot break
off between two of them: it is refused before anything is done, it does nothing because the choice is selected
already, or it writes all values and notes the choice (`selectChoice_cases_of_quiet`).
-/

import Walkthrough.Proofs.Engine.SavedText
import Walkthrough.Proofs.Engine.Structural

namespace Walkthrough

/-! ## Values of scripts -/

/-- A value that a script can give to a property fits into every store over the schema. -/
theorem Schema.Admits.fits {s : Store} {id : Int} {v : Value} (h : s.schema.Admits id v) : s.Fits id v := by
  obtain ⟨p, hp, hholds⟩ := h
  unfold Store.Fits Store.convert Store.property
  rw [hp]
  exact PropertyType.convert_eq_self_iff.2 hholds

namespace Script

variable {s : Script}

/-- **What a script writes** when it is run: the default values of its steps and the values of its choices. -/
inductive Writes (s : Script) : Int → Value → Prop
  | default {id : Int} {step : Step} {x : Int × Value} (found : s.step? id = some step)
      (mem : x ∈ step.defaults.entries) : Writes s x.1 x.2
  | choice {step choice : Int} {c : Choice} {x : Int × Value} (found : s.choice? step choice = some c)
      (mem : x ∈ c.values.entries) : Writes s x.1 x.2

/-- What a script writes fits into every store over its schema. -/
theorem Sound.fits_of_writes (h : s.Sound) {id : Int} {v : Value} (hv : s.Writes id v) {t : Store}
    (schema : t.schema = s.schema) : t.Fits id v := by
  cases hv with
  | default found mem => exact Schema.Admits.fits (schema ▸ (h.step found).defaults _ mem)
  | choice found mem => exact Schema.Admits.fits (schema ▸ (h.of_choice? found).values _ mem)

end Script

namespace Engine

variable {e : Engine}

/-- **Every value in the store** is unset or of the type of its property. -/
theorem Ready.admits (r : e.Ready) {id : Int} {v : Value} (h : e.store.values.get? id = some v) :
    e.script.schema.Admits id v := by
  obtain ⟨p, hp, hconvert⟩ := Store.property_of_convert (r.typed id v h)
  exact ⟨p, r.schema ▸ hp, PropertyType.holds_of_convert hconvert⟩

/-! ## Selecting a choice -/

/-- Writing a value that fits and can be logged, with listeners that do not fail. -/
theorem setValue_of_fits (q : e.Quiet) {id : Int} {v : Value} (h : e.store.Fits id v)
    (logged : Store.isLoggable id v = true) :
    ∃ e', setValue id v e = .ok () e' ∧ e.Stays e' ∧ e'.store = e.store.write id v := by
  have hstays := setValue_stays id v e
  have heq := (setValue_of_ok h logged).trans (Quiet.report_ok (by exact q) _ _)
  rw [Act.after_ok heq] at hstays
  exact ⟨_, heq, hstays, rfl⟩

/-- Writing values that fit and can be logged does not break off. -/
theorem setValues_of_fits (q : e.Quiet) {es : List (Int × Value)} (h : ∀ x ∈ es, e.store.Fits x.1 x.2)
    (logged : Store.areLoggable es = true) :
    ∃ e', setValues es e = .ok () e' ∧ e.Stays e' ∧ e'.store = e.store.overwritten es := by
  induction es generalizing e with
  | nil => exact ⟨e, rfl, .refl e, rfl⟩
  | cons x rest ih =>
    obtain ⟨hx, hrest⟩ := List.forall_mem_cons.1 h
    obtain ⟨hlog, hlogs⟩ := List.forall_mem_cons.1 (Store.areLoggable_iff.1 logged)
    obtain ⟨e₁, hset, hstays, hstore⟩ := setValue_of_fits q hx hlog
    obtain ⟨e₂, hsets, hstays', hstore'⟩ := ih (hstays.toKeeps.quiet q)
      (fun y hy => (hrest y hy).congr hstays.schema) (Store.areLoggable_iff.2 hlogs)
    refine ⟨e₂, (Act.bind_ok hset).trans hsets, hstays.trans hstays', ?_⟩
    rw [hstore', hstore, Store.overwritten_cons]

/-- What it means to have selected a choice of the current step: all its values were written, the choice was
noted, and the engine stands where it stood. -/
structure Chosen (e e' : Engine) (step choice : Int) : Prop where
  current : e.current = some step
  written : ∃ c, e.script.choice? step choice = some c ∧ e'.store = e.store.overwritten c.values.entries
  selected : e'.selected = e.selected.insert step choice
  stays : e'.current = e.current ∧ e'.cameFrom = e.cameFrom

/-- **Selecting a choice** whose values can be logged is all or nothing. -/
theorem selectChoice_cases_of_quiet (r : e.Ready) (sound : e.script.Sound) (q : e.Quiet) {step choice : Int}
    (logged : ∀ c, e.script.choice? step choice = some c → Store.areLoggable c.values.entries = true) :
    (∃ err, selectChoice step choice e = .error err e) ∨
      (e.current = some step ∧ e.selected.get? step = some choice ∧ selectChoice step choice e = .ok () e) ∨
        ∃ e', selectChoice step choice e = .ok () e' ∧ e.Chosen e' step choice := by
  have heq := selectChoice_eq step choice e
  cases hc : e.current with
  | none =>
    rw [hc] at heq
    exact .inl ⟨_, heq⟩
  | some current =>
    simp only [hc] at heq
    split at heq
    · exact .inl ⟨_, heq⟩
    next hstep =>
    obtain rfl : step = current := by simpa using hstep
    cases hchoice : e.script.choice? step choice with
    | none =>
      rw [hchoice] at heq
      exact .inl ⟨_, heq⟩
    | some c =>
      simp only [hchoice] at heq
      split at heq
      · next hselected => exact .inr (.inl ⟨rfl, by simpa using hselected, heq⟩)
      have hfits : ∀ x ∈ c.values.entries, e.store.Fits x.1 x.2 :=
        fun x hx => sound.fits_of_writes (.choice hchoice hx) r.schema
      obtain ⟨e', hset, hstays, hstore⟩ := setValues_of_fits q hfits (logged c hchoice)
      have hquiet : e'.Quiet := hstays.toKeeps.quiet q
      rw [hset] at heq
      refine .inr (.inr ⟨_, heq.trans (Quiet.report_ok (by exact hquiet) _ _), ?_⟩)
      exact
        { current := hc
          written := ⟨c, hchoice, hstore⟩
          selected := congrArg (fun m => m.insert step choice) hstays.selected
          stays := ⟨hstays.current, hstays.cameFrom⟩ }

/-- **Values are always of their types.** Conversion yields no value or one of the type, and leaves that as it
is. After any requests to a new engine, whatever the listeners do, every value in the store is unset or of the
type of its property, and what the script writes when it is run, default values of steps and values of
choices, is written as it is into every store over its properties, and can fail only to be logged. So if no
listener fails, selecting a choice whose values can all be logged is refused with nothing done, or it does nothing
because the choice is selected already, or it writes all values of the choice and notes it. -/
theorem values_typed {e₀ : Engine} (fresh : e₀.Fresh) (requests : List Request) :
    (∀ (type : PropertyType) v w, type.convert v = .ok w → type.Holds w ∧ type.convert w = .ok w) ∧
    let e := e₀.serve requests
    (∀ id v, e.store.values.get? id = some v → e.script.schema.Admits id v) ∧
    (∀ id v, e.script.Writes id v → ∀ t : Store, t.schema = e.script.schema →
      t.set id v = (Store.log id v, t.write id v)) ∧
    (e₀.Quiet → ∀ step choice,
      (∀ c, e.script.choice? step choice = some c → Store.areLoggable c.values.entries = true) →
      (∃ err, selectChoice step choice e = .error err e) ∨
        (e.current = some step ∧ e.selected.get? step = some choice ∧ selectChoice step choice e = .ok () e) ∨
          ∃ e', selectChoice step choice e = .ok () e' ∧ e.Chosen e' step choice) := by
  obtain ⟨hk, hr⟩ := serve_keeps fresh.ready requests
  have sound := fresh.built.sound.of_freeze_eq hk.script
  refine ⟨fun type v w h => ⟨PropertyType.holds_of_convert h, PropertyType.convert_convert h⟩, ?_⟩
  refine ⟨fun id v h => hr.admits h, fun id v hv t ht => Store.set_of_fits (sound.fits_of_writes hv ht), ?_⟩
  exact fun quiet _ _ logged => selectChoice_cases_of_quiet hr sound (hk.quiet quiet) logged

/-- On the first page of a diary the choice writes its value. -/
theorem diary_chosen :
    let e := (ofScript diary .empty).serve [.perform .start]
    ∃ e', selectChoice 1 7 e = .ok () e' ∧ e.Chosen e' 1 7 := by
  intro e
  obtain ⟨-, -, -, hselect⟩ := values_typed diary_fresh [.perform .start]
  have hok : ((selectChoice 1 7).outcome e).toOption.isSome = true := by decide +kernel
  have hnew : e.selected.get? 1 = none := by decide +kernel
  have hall : (e.script.choice? 1 7).all (fun c => Store.areLoggable c.values.entries) = true := by decide +kernel
  have logged : ∀ c, e.script.choice? 1 7 = some c → Store.areLoggable c.values.entries = true := by
    intro c hc
    rw [hc, Option.all_some] at hall
    exact hall
  rcases hselect (ofScript_quiet diary .empty) 1 7 logged with ⟨err, herr⟩ | ⟨-, hselected, -⟩ | hchosen
  · rw [Act.outcome_error herr] at hok
    cases hok
  · rw [hnew] at hselected
    cases hselected
  · exact hchosen

/-- **A choice that is selected already is not written again**: selecting it is not refused, and not all its
values are in the store. -/
theorem diary_rechosen :
    let e₀ := ofScript diary .empty
    let e := e₀.serve [.perform .start, .perform (.selectChoice 1 7), .perform (.setValue 3 (.bool false))]
    e₀.Fresh ∧ e₀.Quiet ∧
      ¬((∃ err, (selectChoice 1 7).outcome e = .error err) ∨
        ∃ c, e.script.choice? 1 7 = some c ∧
          ∀ x ∈ c.values.entries, ((selectChoice 1 7).after e).store.value x.1 = x.2) := by
  intro e₀ e
  have hok : ((selectChoice 1 7).outcome e).toOption.isSome = true := by decide +kernel
  have hdiffers : ((e.script.choice? 1 7).all fun c => c.values.entries.any fun x =>
      (((selectChoice 1 7).after e).store.value x.1).toText != x.2.toText) = true := by decide +kernel
  refine ⟨diary_fresh, ofScript_quiet diary .empty, ?_⟩
  rintro (⟨err, herr⟩ | ⟨c, hc, hwritten⟩)
  · rw [herr] at hok
    cases hok
  · rw [hc] at hdiffers
    obtain ⟨x, hx, hne⟩ := List.any_eq_true.1 hdiffers
    rw [hwritten x hx] at hne
    simp at hne

end Engine
end Walkthrough
