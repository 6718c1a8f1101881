/-
# Writing values and selecting choices

Writing a value looks ahead before and after the write (`setValue_eq`), so that functions may be called,
but what the engine stands on stays (`Stays`): its position, its links and its choices. The same is true
of selecting a choice, except that the choice is noted in the end (`selectChoice_cases`).
-/

import Walkthrough.Proofs.Engine.Act
import Walkthrough.Proofs.Engine.Travel

namespace Walkthrough
namespace Engine

variable {e e' e'' : Engine}

/-! ## What stays -/

/-- What holds between an engine and what becomes of it in any operation: the script is the same, closed
to changes perhaps, and so are the listeners, the functions and the tags. -/
structure Keeps (e e' : Engine) : Prop where
  script : e'.script.freeze = e.script.freeze
  bus : e'.bus = e.bus
  functions : e'.registry.functions = e.registry.functions
  schema : e'.store.schema = e.store.schema
  stepTags : e'.stepTags = e.stepTags
  propertyTags : e'.propertyTags = e.propertyTags

/-- What holds in addition if only values were written. -/
structure Stays (e e' : Engine) : Prop extends Keeps e e' where
  typed : e.store.Typed → e'.store.Typed
  current : e'.current = e.current
  cameFrom : e'.cameFrom = e.cameFrom
  selected : e'.selected = e.selected

theorem Keeps.refl (e : Engine) : e.Keeps e := ⟨rfl, rfl, rfl, rfl, rfl, rfl⟩

theorem Keeps.trans (h : e.Keeps e') (h' : e'.Keeps e'') : e.Keeps e'' :=
  ⟨h'.script.trans h.script, h'.bus.trans h.bus, h'.functions.trans h.functions,
    h'.schema.trans h.schema, h'.stepTags.trans h.stepTags, h'.propertyTags.trans h.propertyTags⟩

theorem Stays.refl (e : Engine) : e.Stays e := ⟨.refl e, id, rfl, rfl, rfl⟩

theorem Stays.of_eq (h : e' = e) : e.Stays e' := h ▸ .refl e

theorem Stays.trans (h : e.Stays e') (h' : e'.Stays e'') : e.Stays e'' :=
  ⟨h.toKeeps.trans h'.toKeeps, h'.typed ∘ h.typed, h'.current.trans h.current,
    h'.cameFrom.trans h.cameFrom, h'.selected.trans h.selected⟩

theorem report_stays {α : Type} (r : Except Error α) (events : List Event) (e : Engine) :
    e.Stays (Act.after (report r events) e) := by
  obtain ⟨told, h⟩ := after_report r events e
  rw [h]
  exact ⟨⟨rfl, rfl, rfl, rfl, rfl, rfl⟩, id, rfl, rfl, rfl⟩

/-! ## Looking ahead -/

/-- The engine after looking ahead: only the calls on the way are noted. -/
def peeked (e : Engine) : Engine := { e with registry := (e.travel false).2.registry }

/-- The step that looking ahead finds. -/
def foreseen (e : Engine) : Option Int := (e.travel false).1.toOption.map Step.id

theorem peek_eq : peek e = .ok e.foreseen e.peeked := by
  unfold peek foreseen peeked
  rw [Act.bind_eq, Act.get_eq]
  simp only [lookAhead_eq]
  rcases e.travel false with ⟨halt | step, c⟩ <;> rfl

theorem peeked_stays : e.Stays e.peeked :=
  ⟨⟨rfl, rfl, (travel_keeps e false).functions, rfl, rfl, rfl⟩, id, rfl, rfl, rfl⟩

/-! ## Writing a value -/

/-- What writing a value tells, by what was foreseen before and after. -/
def readyEvents (before after : Option Int) : List Event :=
  match after with
  | some step => if before != some step then [.nextStepReady step] else []
  | none => []

theorem report_readyEvents (before after : Option Int) :
    (match after with
      | some step => if before != some step then emit (.nextStepReady step) else pure ()
      | none => pure ()) = report (.ok ()) (readyEvents before after) := by
  unfold readyEvents
  cases after with
  | none => rfl
  | some step =>
    dsimp only
    split
    · exact (bind_pure_unit (x := emit (.nextStepReady step))).symm
    · rfl

/-- The engine right after a value was written, which a look ahead goes before. -/
def written (e : Engine) (id : Int) (w : Value) : Engine := { e.peeked with store := e.store.write id w }

theorem written_stays {id : Int} {w : Value} (h : e.store.Fits id w) : e.Stays (e.written id w) :=
  peeked_stays.trans ⟨⟨rfl, rfl, rfl, rfl, rfl, rfl⟩, fun ht => ht.write h, rfl, rfl, rfl⟩

/-- **Writing a value.** -/
theorem setValue_eq (id : Int) (v : Value) (e : Engine) : setValue id v e =
    if !e.store.contains id then .error (.raised (.propertyNotFound (.id id))) e
    else match e.store.convert id v with
      | .error err => .error err e.peeked
      | .ok w =>
        match Store.log id w with
        | .error err => .error err (e.written id w)
        | .ok () => report (.ok ()) (readyEvents e.foreseen (e.written id w).foreseen) (e.written id w).peeked := by
  unfold setValue
  rw [Act.bind_eq, Act.get_eq]
  dsimp only
  split
  · rfl
  · rw [Act.bind_ok peek_eq]
    cases hv : e.store.convert id v with
    | error err => exact Act.bind_error (write_of_error (e := e.peeked) hv)
    | ok w =>
      have hwrite : write id v e.peeked = lift (Store.log id w) (e.written id w) := write_of_convert hv
      dsimp only
      cases hlog : Store.log id w with
      | error err =>
        rw [hlog] at hwrite
        exact Act.bind_error hwrite
      | ok _ =>
        rw [hlog] at hwrite
        rw [Act.bind_ok hwrite, Act.bind_ok peek_eq]
        exact congrFun (report_readyEvents _ _) _

/-- Writing a value that has a form for its property, which can be logged. -/
theorem setValue_of_ok {id : Int} {v w : Value} (h : e.store.convert id v = .ok w)
    (hlog : Store.isLoggable id w = true) : setValue id v e =
      report (.ok ()) (readyEvents e.foreseen (e.written id w).foreseen) (e.written id w).peeked := by
  have heq := setValue_eq id v e
  simp only [Store.contains_of_convert h, h, Store.log_of_isLoggable hlog, Bool.not_true, Bool.false_eq_true,
    if_false] at heq
  exact heq

/-- **A value that cannot be logged** is written, and then the operation breaks off. -/
theorem setValue_of_not_isLoggable {id : Int} {v w : Value} (h : e.store.convert id v = .ok w)
    (hlog : Store.isLoggable id w = false) : setValue id v e = .error .tooManyDigits (e.written id w) := by
  have heq := setValue_eq id v e
  simp only [Store.contains_of_convert h, h, Store.log_of_not_isLoggable hlog, Bool.not_true, Bool.false_eq_true,
    if_false] at heq
  exact heq

/-- Writing a value that has no form for its property. -/
theorem setValue_of_error {id : Int} {v : Value} {err : Error} (h : e.store.convert id v = .error err) :
    ∃ e', setValue id v e = .error err e' ∧ (e' = e ∨ e' = e.peeked) := by
  have heq := setValue_eq id v e
  cases hcontains : e.store.contains id with
  | false =>
    rw [Store.convert_of_unknown hcontains] at h
    obtain rfl := Except.error.inj h
    rw [hcontains] at heq
    exact ⟨e, heq, .inl rfl⟩
  | true =>
    simp only [hcontains, h, Bool.not_true, Bool.false_eq_true, if_false] at heq
    exact ⟨e.peeked, heq, .inr rfl⟩

theorem setValue_stays (id : Int) (v : Value) (e : Engine) : e.Stays (Act.after (setValue id v) e) := by
  have heq := setValue_eq id v e
  split at heq
  · rw [Act.after_error heq]
    exact .refl e
  · split at heq
    · rw [Act.after_error heq]
      exact peeked_stays
    · next w hw =>
      have hwritten : e.Stays (e.written id w) := written_stays (Store.fits_of_convert hw)
      split at heq
      · rw [Act.after_error heq]
        exact hwritten
      · rw [Act.after_congr heq]
        exact (hwritten.trans peeked_stays).trans (report_stays _ _ _)

theorem setValues_stays (es : List (Int × Value)) (e : Engine) :
    e.Stays (Act.after (setValues es) e) := by
  induction es generalizing e with
  | nil => exact .refl e
  | cons x rest ih =>
    have h := setValue_stays x.1 x.2 e
    unfold setValues
    cases hx : setValue x.1 x.2 e with
    | ok a e' =>
      rw [Act.after_ok hx] at h
      rw [Act.after_congr (Act.bind_ok hx)]
      exact h.trans (ih e')
    | error err e' =>
      rw [Act.after_error hx] at h
      rw [Act.after_error (Act.bind_error hx)]
      exact h

/-! ## Selecting a choice -/

/-- **Selecting a choice.** -/
theorem selectChoice_eq (step choice : Int) (e : Engine) : selectChoice step choice e = match e.current with
    | none => .error (.script (.state .notStarted)) e
    | some current =>
      if step != current then .error (.raised (.state (.notCurrent current step))) e
      else match e.script.choice? step choice with
        | none => .error (.raised (.unknownChoice step choice)) e
        | some c =>
          if e.selected.get? step == some choice then .ok () e
          else match setValues c.values.entries e with
            | .error err e' => .error err e'
            | .ok _ e' => report (.ok ()) [.choiceActivated step choice]
                { e' with selected := e'.selected.insert step choice } := by
  unfold selectChoice
  rw [Act.bind_ok (Act.get_eq e)]
  cases e.current with
  | none => rfl
  | some current =>
    dsimp only
    split
    · rfl
    · cases hch : e.script.choice? step choice with
      | none => rfl
      | some c =>
        dsimp only
        split
        · rfl
        · cases hv : setValues c.values.entries e with
          | error err e' => exact Act.bind_error hv
          | ok a e' =>
            refine (Act.bind_ok hv).trans ?_
            rw [Act.bind_ok (Act.modify_eq _ _)]
            exact congrFun (bind_pure_unit (x := emit (.choiceActivated step choice))).symm _

/-- Selecting a choice only writes values, or it notes a choice that exists at the step and tells so. -/
theorem selectChoice_cases (step choice : Int) (e : Engine) :
    e.Stays (Act.after (selectChoice step choice) e) ∨
      (e.script.choice? step choice).isSome = true ∧
        ∃ e', e.Stays e' ∧ selectChoice step choice e = report (.ok ()) [.choiceActivated step choice]
          { e' with selected := e.selected.insert step choice } := by
  have heq := selectChoice_eq step choice e
  split at heq
  · exact .inl (.of_eq (Act.after_error heq))
  split at heq
  · exact .inl (.of_eq (Act.after_error heq))
  split at heq
  · exact .inl (.of_eq (Act.after_error heq))
  next c hch =>
    split at heq
    · exact .inl (.of_eq (Act.after_ok heq))
    have hv := setValues_stays c.values.entries e
    split at heq
    · next err e' he =>
      rw [Act.after_error he] at hv
      rw [Act.after_error heq]
      exact .inl hv
    · next a e' he =>
      rw [Act.after_ok he] at hv
      rw [hv.selected] at heq
      exact .inr ⟨Option.isSome_iff_exists.2 ⟨c, hch⟩, e', hv, heq⟩

end Engine
end Walkthrough
