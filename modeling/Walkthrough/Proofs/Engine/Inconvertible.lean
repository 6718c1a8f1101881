/-
# Values that cannot be converted

Conversion refuses a value that has no form in a type, and the refusal shows the value. In two cases it breaks
off instead (`PropertyType.Strays`): an integer beyond every double is not a double, and a value with an integer
too long to be written cannot be shown. Whoever converts values breaks off then as well:

| who | which values | otherwise breaks off |
| --- | --- | --- |
| writing a value | the value | on a number too long to be written, in the log or in the refusal |
| adding a step | its default values | on such a number in the refusal |
| adding a choice | its values | on such a number in the refusal, or a step number that cannot be looked up |
| restoring, also from a text | the values of the snapshot | on such a number, in the log or in the refusal |

So conversion has one cause in all of them, and whatever else breaks off is about writing a number down
(`conversion_strays`).
-/

import Walkthrough.Proofs.Engine.Adoption
import Walkthrough.Proofs.Engine.Structural
import Walkthrough.Proofs.Number.Overflow
import Walkthrough.Proofs.Script.Editing

namespace Walkthrough

/-! ## Conversion -/

namespace PropertyType

variable {type : PropertyType} {v : Value} {cause : Failure}

/-- **How conversion strays**: it breaks off where it should refuse the value. -/
inductive Strays : PropertyType → Value → Failure → Prop
  /-- An integer beyond every double. -/
  | overflow {n : Int} (great : Number.overflowBound ≤ n.natAbs) : Strays .double (.int n) .overflow
  /-- A value without a form that the refusal cannot show. -/
  | unshown {type : PropertyType} {v : Value} (formless : form? type v = none) (unprintable : v.isPrintable = false)
      (other : type = .double → ∀ n, v ≠ .int n) : Strays type v (.usage .tooManyDigits)

theorem form?_double_int (n : Int) : form? .double (.int n) = none ↔ Number.overflowBound ≤ n.natAbs := by
  rw [← Number.ofInt?_eq_none_iff]
  exact Option.map_eq_none_iff

/-- **What conversion fails with**: the refusal of the value, which it can show, or it has strayed. -/
theorem convert_error {err : Error} (h : type.convert v = .error err) :
    err = .script (.value (.invalid type v)) ∧ v.isPrintable = true ∨
      ∃ cause, err = .failure cause ∧ type.Strays v cause := by
  unfold convert at h
  split at h
  · cases h
  split at h
  · cases h
  next hform =>
    obtain rfl := Except.error.inj h
    unfold refusal
    split
    · exact .inr ⟨_, rfl, .overflow ((form?_double_int _).1 hform)⟩
    · next hother =>
      cases hprintable : v.isPrintable with
      | true => exact .inl ⟨Error.raised_of_isWritable hprintable, rfl⟩
      | false =>
        refine .inr ⟨_, Error.raised_of_not_isWritable hprintable, .unshown hform hprintable ?_⟩
        rintro rfl n rfl
        exact hother n rfl rfl

/-- **Conversion breaks off** exactly if it strays. -/
theorem convert_eq_failure_iff : type.convert v = .error (.failure cause) ↔ type.Strays v cause := by
  constructor
  · intro h
    rcases convert_error h with ⟨hscript, -⟩ | ⟨cause', hcause, hstrays⟩
    · cases hscript
    · cases hcause
      exact hstrays
  · intro h
    cases h with
    | overflow great =>
      have hform := (form?_double_int _).2 great
      unfold convert
      simp only [hform]
      rfl
    | unshown formless unprintable other =>
      have hrefusal : refusal type v = .failure (.usage .tooManyDigits) := by
        unfold refusal
        split
        · next n => exact absurd rfl (other rfl n)
        · exact Error.raised_of_not_isWritable unprintable
      cases v with
      | unset => cases unprintable
      | _ => simp only [convert, formless, hrefusal]

end PropertyType

/-- Conversion strays for a property of a schema. -/
def Schema.Strays (s : Schema) (id : Int) (v : Value) (cause : Failure) : Prop :=
  ∃ p, s.get? id = some p ∧ p.type.Strays v cause

/-- **A write breaks off apart from its conversion**: the property is not known, or its value is to be logged, and
a number is too long for it. -/
inductive Store.Unlogged (s : Store) (id : Int) (v : Value) : Prop
  | unknown (unknown : s.contains id = false) (long : Value.isShort id = false)
  | converted {w : Value} (converts : s.convert id v = .ok w) (long : Store.isLoggable id w = false)

theorem Store.convert_of_property {s : Store} {id : Int} {p : Property} (h : s.schema.get? id = some p) (v : Value) :
    s.convert id v = p.type.convert v := by
  unfold convert property
  rw [h]
  rfl

/-- Conversion breaks off if it strays, or if it complains of a property with a number that is too long. -/
theorem Store.convert_eq_failure_iff {s : Store} {id : Int} {v : Value} {cause : Failure} :
    s.convert id v = .error (.failure cause) ↔ s.schema.Strays id v cause ∨
      cause = .usage .tooManyDigits ∧ s.contains id = false ∧ Value.isShort id = false := by
  cases hp : s.schema.get? id with
  | none =>
    have hunknown : s.contains id = false := Bool.eq_false_iff.2 fun h => by
      obtain ⟨p, hp'⟩ := OrderedMap.contains_iff.1 h
      cases hp.symm.trans hp'
    have hstrays : ¬s.schema.Strays id v cause := by
      rintro ⟨p, hp', -⟩
      cases hp.symm.trans hp'
    rw [convert_of_unknown hunknown, or_iff_right hstrays, and_iff_right hunknown]
    cases hshort : Value.isShort id with
    | true =>
      rw [show Error.raised (.propertyNotFound (.id id)) = .script _ from Error.raised_of_isWritable hshort]
      exact iff_of_false (fun h => nomatch h) fun h => nomatch h.2
    | false =>
      rw [show Error.raised (.propertyNotFound (.id id)) = _ from Error.raised_of_not_isWritable hshort]
      refine ⟨fun h => ⟨(Error.failure.inj (Except.error.inj h)).symm, rfl⟩, ?_⟩
      rintro ⟨rfl, -⟩
      rfl
  | some p =>
    have hknown : s.contains id = true := OrderedMap.contains_iff.2 ⟨p, hp⟩
    rw [convert_of_property hp, hknown, PropertyType.convert_eq_failure_iff, Schema.Strays, hp]
    simp

/-- **A snapshot with a number that is too long to be written**: one of its own, or one in the form that a value of it
has in a store. -/
inductive Snapshot.Overlong (s : Snapshot) (store : Store) : Prop
  | step {id : Int} (mem : id ∈ s.stepIds) (long : Value.isShort id = false)
  | choice {x : Int × Int} (mem : x ∈ s.choices.entries) (long : Value.isShort x.2 = false)
  | property {x : Int × Value} (mem : x ∈ s.values.entries) (long : Value.isShort x.1 = false)
  | value {x : Int × Value} {w : Value} (mem : x ∈ s.values.entries) (converts : store.convert x.1 x.2 = .ok w)
      (long : w.isPrintable = false)

/-! ## What a result breaks off with -/

/-- A result that breaks off for certain causes only; it may be refused for any. -/
abbrev BreaksOnly {α : Type} (P : Failure → Prop) (x : Except Error α) : Prop :=
  FailsOnly (fun err => ∀ cause, err = .failure cause → P cause) x

theorem FailsOnly.refused {α : Type} {P : Failure → Prop} (cause : ScriptError) :
    BreaksOnly P (.error (.script cause) : Except Error α) := .error fun _ h => nomatch h

/-- Raising a refusal breaks off only on a number that is too long for its message. -/
theorem FailsOnly.raised {α : Type} {P : Failure → Prop} {refusal : ScriptError}
    (h : refusal.isWritable = false → P (.usage .tooManyDigits)) :
    BreaksOnly P (.error (.raised refusal) : Except Error α) := by
  cases hwritable : refusal.isWritable with
  | true =>
    rw [Error.raised_of_isWritable hwritable]
    exact .refused _
  | false =>
    rw [Error.raised_of_not_isWritable hwritable]
    exact .error fun cause hcause => Error.failure.inj hcause ▸ h hwritable

theorem FailsOnly.mono_cause {α : Type} {P Q : Failure → Prop} {x : Except Error α} (h : ∀ cause, P cause → Q cause)
    (hx : BreaksOnly P x) : BreaksOnly Q x := FailsOnly.mono (fun _ herr cause hcause => h cause (herr cause hcause)) hx

/-! ## Scripts -/

theorem Predicate.compile_breaks (text : String) (given : Option (OrderedMap String Int)) :
    BreaksOnly (· = .usage .tooManyDigits) (Predicate.compile text given) := by
  unfold compile
  dsimp only
  split
  · exact .refused _
  split
  · exact .refused _
  split
  · exact .refused _
  split
  · exact .ok _
  · exact .error fun _ h => (Error.failure.inj h).symm

namespace Script

variable {s : Script} {es : List (Int × Value)}

/-- Conversion strays for one of several values. -/
def Strays (s : Script) (es : List (Int × Value)) (cause : Failure) : Prop :=
  ∃ x ∈ es, s.schema.Strays x.1 x.2 cause

/-- Why adding a step or a choice breaks off: a value strays, or it is not about values. -/
def BreaksOff (s : Script) (es : List (Int × Value)) (cause : Failure) : Prop :=
  s.Strays es cause ∨ cause = .usage .tooManyDigits ∨ cause = .wrongType

/-- Refusing what is added. -/
theorem refuse_breaks {α : Type} (cause : DefinitionFault) :
    BreaksOnly (s.BreaksOff es) (refuse cause : Except Error α) := .raised fun _ => .inr (.inl rfl)

theorem named_breaks (place : Place) : BreaksOnly (s.BreaksOff es) (named place) := by
  unfold named
  split
  · exact .ok _
  · exact .error fun _ h => .inr (.inl (Error.failure.inj h).symm)

theorem checkedEntries_breaks (place : Place) (es : List (Int × Value)) :
    BreaksOnly (s.BreaksOff es) (s.checkedEntries place es) := by
  induction es with
  | nil => exact .ok _
  | cons x rest ih =>
    unfold checkedEntries
    refine FailsOnly.bind ?_ fun w _ => FailsOnly.bind ?_ fun _ _ => .ok _
    · unfold checkedValue
      split
      · exact refuse_breaks _
      next p hp =>
      split
      · exact .ok _
      · exact refuse_breaks _
      · next err _ herr =>
        refine .error fun cause hcause => .inl ⟨x, List.mem_cons_self, p, hp, ?_⟩
        rw [hcause] at herr
        exact PropertyType.convert_eq_failure_iff.1 herr
    · exact ih.mono_cause fun _ => Or.imp_left (Exists.imp fun _ => And.imp_left (List.mem_cons_of_mem x))

theorem checkedValues_breaks (place : Place) (values : OrderedMap Int Value) :
    BreaksOnly (s.BreaksOff values.entries) (s.checkedValues place values) :=
  (checkedEntries_breaks place values.entries).bind fun _ _ => .ok _

theorem checkedIds_breaks (place : Place) (ids : List Int) :
    BreaksOnly (s.BreaksOff es) (s.checkedIds place ids) := by
  unfold checkedIds
  dsimp only
  split
  · exact refuse_breaks _
  · exact .ok _

theorem checkedRules_breaks (step : Int) (drafts : List (Option String × Value)) :
    BreaksOnly (s.BreaksOff es) (s.checkedRules step drafts) := by
  induction drafts with
  | nil => exact .ok _
  | cons draft rest ih =>
    unfold checkedRules
    split
    · exact refuse_breaks _
    refine FailsOnly.bind ?_ fun p _ => ih.bind fun _ _ => .ok _
    unfold checkedPredicate
    split
    · exact .ok _
    split
    · exact .ok _
    refine ((Predicate.compile_breaks _ _).mono_cause fun _ h => .inr (.inl h)).bind fun p _ => ?_
    split
    · exact .refused _
    · exact .ok _

theorem addBody_breaks (body : StepBody) (d : StepDraft) :
    BreaksOnly (s.BreaksOff d.defaults.entries) (s.addBody body d) := by
  unfold addBody
  split
  · exact refuse_breaks _
  split
  · exact refuse_breaks _
  split
  · exact refuse_breaks _
  split
  · exact refuse_breaks _
  refine (named_breaks _).bind fun _ _ => (checkedValues_breaks _ _).bind fun defaults _ => ?_
  exact (checkedIds_breaks _ _).bind fun required _ => (checkedRules_breaks _ _).bind fun rules _ => .ok _

theorem addSay_breaks (text : String) (d : StepDraft) :
    BreaksOnly (s.BreaksOff d.defaults.entries) (s.addSay text d) := by
  unfold addSay
  split
  · exact refuse_breaks _
  · exact addBody_breaks _ d

theorem addCall_breaks (c : CallDraft) (d : StepDraft) :
    BreaksOnly (s.BreaksOff d.defaults.entries) (s.addCall c d) := by
  unfold addCall
  split
  · exact refuse_breaks _
  split
  · exact refuse_breaks _
  split
  · exact refuse_breaks _
  · exact addBody_breaks _ d

theorem addStep_breaks (text : String) (c : CallDraft) (d : StepDraft) :
    BreaksOnly (s.BreaksOff d.defaults.entries) (s.addStep text c d) := by
  unfold addStep
  split
  · exact refuse_breaks _
  split
  · exact addCall_breaks c d
  split
  · exact refuse_breaks _
  · exact addSay_breaks text d

theorem addChoice_breaks (step : Value) (d : ChoiceDraft) :
    BreaksOnly (s.BreaksOff d.values.entries) (s.addChoice step d) := by
  unfold addChoice
  split
  · exact refuse_breaks _
  refine FailsOnly.bind ?_ fun x? _ => ?_
  · unfold lookUp
    split
    · exact .ok _
    · exact .error fun _ h => .inr (.inr (Error.failure.inj h).symm)
  split
  · exact refuse_breaks _
  split
  · exact refuse_breaks _
  split
  · exact refuse_breaks _
  split
  · exact refuse_breaks _
  split
  · exact refuse_breaks _
  split
  · exact refuse_breaks _
  refine (named_breaks _).bind fun _ _ => (checkedValues_breaks _ _).bind fun values _ => ?_
  exact (checkedIds_breaks _ _).bind fun required _ => .ok _

end Script

namespace Edit

/-- The values for properties that come with an edit. -/
def values : Edit → List (Int × Value)
  | say _ d => d.defaults.entries
  | call _ d => d.defaults.entries
  | step _ _ d => d.defaults.entries
  | choice _ d => d.values.entries
  | freeze => []

/-- **An edit breaks off** for one of its values, or not for a value. -/
theorem perform_breaks {e : Edit} {s t : Script} {cause : Failure}
    (h : e.perform s = .error (.failure cause) t) : s.BreaksOff e.values cause := by
  -- Every edit but closing the script is one addition, which fails with the script as it was.
  have added : ∀ {α : Type} {add : Script → Except Error (Script × α)},
      BreaksOnly (s.BreaksOff e.values) (add s) → e.perform = (fun _ => ()) <$> Editing.atOnce add →
        s.BreaksOff e.values cause := by
    intro α add hadd heq
    rw [heq] at h
    rcases Editing.discard_atOnce add s with ⟨t', a, -, hok⟩ | ⟨err, herr, hmap⟩
    · rw [hok] at h
      cases h
    · rw [hmap] at h
      cases h
      exact hadd _ herr cause rfl
  cases e with
  | say text d => exact added (Script.addSay_breaks text d) (by rw [perform, Editing.say_eq])
  | call c d => exact added (Script.addCall_breaks c d) (by rw [perform, Editing.call_eq])
  | step text c d => exact added (Script.addStep_breaks text c d) (by rw [perform, Editing.step_eq])
  | choice step d => exact added (Script.addChoice_breaks step d) (by rw [perform, Editing.choice_eq])
  | freeze => cases h

end Edit

namespace Engine

variable {e : Engine} {cause : Failure}

/-! ## Engines -/

/-- **Writing a value breaks off** exactly if its conversion strays, or it is not logged. -/
theorem setValue_eq_failure_iff (q : e.Quiet) (id : Int) (v : Value) :
    (setValue id v).outcome e = .error (.failure cause) ↔
      e.store.schema.Strays id v cause ∨ cause = .usage .tooManyDigits ∧ e.store.Unlogged id v := by
  cases hconvert : e.store.convert id v with
  | error err =>
    have hunlogged : e.store.Unlogged id v ↔ e.store.contains id = false ∧ Value.isShort id = false := by
      refine ⟨fun h => ?_, fun h => .unknown h.1 h.2⟩
      cases h with
      | unknown unknown long => exact ⟨unknown, long⟩
      | converted converts => cases hconvert.symm.trans converts
    obtain ⟨e', heq, -⟩ := setValue_of_error hconvert
    rw [Act.outcome_error heq, hunlogged, ← Store.convert_eq_failure_iff, hconvert]
    simp only [Except.error.injEq]
  | ok w =>
    have hstrays : ¬e.store.schema.Strays id v cause := fun h =>
      nomatch hconvert.symm.trans (Store.convert_eq_failure_iff.2 (.inl h))
    rw [or_iff_right hstrays]
    cases hlog : Store.isLoggable id w with
    | true =>
      rw [Act.outcome_ok ((setValue_of_ok hconvert hlog).trans (Quiet.report_ok (by exact q) _ _))]
      refine iff_of_false (fun h => nomatch h) ?_
      rintro ⟨-, h⟩
      cases h with
      | unknown unknown => exact Bool.false_ne_true (unknown.symm.trans (Store.contains_of_convert hconvert))
      | converted converts long =>
        obtain rfl := Except.ok.inj (hconvert.symm.trans converts)
        exact Bool.false_ne_true (long.symm.trans hlog)
    | false =>
      rw [Act.outcome_error (setValue_of_not_isLoggable hconvert hlog)]
      refine ⟨fun h => ⟨(Error.failure.inj (Except.error.inj h)).symm, .converted hconvert hlog⟩, ?_⟩
      rintro ⟨rfl, -⟩
      rfl

/-! ## Restoring -/

/-- Why restoring a snapshot breaks off: the conversion of a saved value strays, or a number is too long. -/
def Undone (e : Engine) (s : Snapshot) (cause : Failure) : Prop :=
  (∃ x ∈ s.values.entries, e.store.schema.Strays x.1 x.2 cause) ∨
    cause = .usage .tooManyDigits ∧ s.Overlong e.store

theorem checkedHistory_breaks (e : Engine) (s : Snapshot) : BreaksOnly (e.Undone s) (checkedHistory e.script s) := by
  have hstep : ∀ id ∈ s.stepIds, Value.isShort id = false → e.Undone s (.usage .tooManyDigits) :=
    fun id hid long => .inr ⟨rfl, .step hid long⟩
  unfold checkedHistory
  split
  · refine .raised fun long => ?_
    obtain ⟨id, hid, hlong⟩ := List.all_eq_false.1 long
    exact hstep id (List.mem_append_left _ (List.mem_append_right _ hid)) (Bool.eq_false_iff.2 hlong)
  split
  · next current hc =>
    have hcurrent : current ∈ s.stepIds :=
      List.mem_append_left _ (List.mem_append_left _ (Option.mem_toList.2 hc))
    split
    · exact .raised (hstep current hcurrent)
    · generalize (if s.history.isEmpty then [current] else s.history) = history
      dsimp only
      split
      · exact .raised (hstep current hcurrent)
      · exact .ok _
  · split
    · exact .ok _
    · exact .raised fun long => nomatch long

/-- The path of a snapshot consists of steps of the snapshot. -/
theorem mem_stepIds_of_mem_path {s : Snapshot} : ∀ id ∈ s.path, id ∈ s.stepIds := by
  intro id hid
  unfold Snapshot.path at hid
  split at hid
  · exact List.mem_append_left _ (List.mem_append_left _ hid)
  · exact List.mem_append_left _ (List.mem_append_right _ hid)

theorem checkedLinks_breaks {P : Failure → Prop} {script : Script} {path : List Int} :
    ∀ {previous : Option Int} {links : OrderedMap Int Int},
      (∀ id ∈ previous.toList ++ path, Value.isShort id = false → P (.usage .tooManyDigits)) →
        BreaksOnly P (checkedLinks script previous links path) := by
  induction path with
  | nil => exact fun _ => .ok _
  | cons step rest ih =>
    intro previous links hlong
    have hstep := hlong step (List.mem_append_right _ List.mem_cons_self)
    have hrest : ∀ id ∈ (some step).toList ++ rest, Value.isShort id = false → P (.usage .tooManyDigits) :=
      fun id hid => hlong id (List.mem_append_right _ hid)
    unfold checkedLinks
    split
    · exact .raised hstep
    split
    · exact ih hrest
    · next before =>
      split
      · exact ih hrest
      · refine .raised fun long => ?_
        have long : (Value.isShort before && Value.isShort step) = false := long
        rcases Bool.and_eq_false_iff.1 long with long | long
        · exact hlong before List.mem_cons_self long
        · exact hstep long

theorem checkedChoices_breaks {P : Failure → Prop} {script : Script} {es : List (Int × Int)} :
    ∀ {selected : OrderedMap Int Int},
      (∀ x ∈ es, (Value.isShort x.1 && Value.isShort x.2) = false → P (.usage .tooManyDigits)) →
        BreaksOnly P (checkedChoices script selected es) := by
  induction es with
  | nil => exact fun _ => .ok _
  | cons x rest ih =>
    intro selected hlong
    unfold checkedChoices
    split
    · exact .raised (hlong x List.mem_cons_self)
    · exact ih fun y hy => hlong y (List.mem_cons_of_mem x hy)

theorem checkedSaved_breaks (e : Engine) (s : Snapshot) {es : List (Int × Value)} :
    ∀ {values : OrderedMap Int Value}, (∀ x ∈ es, x ∈ s.values.entries) →
      BreaksOnly (e.Undone s) (checkedSaved e.store values es) := by
  induction es with
  | nil => exact fun _ => .ok _
  | cons x rest ih =>
    intro values hmem
    have hx := hmem x List.mem_cons_self
    have hrest : ∀ y ∈ rest, y ∈ s.values.entries := fun y hy => hmem y (List.mem_cons_of_mem x hy)
    have hproperty : Value.isShort x.1 = false → e.Undone s (.usage .tooManyDigits) :=
      fun long => .inr ⟨rfl, .property hx long⟩
    unfold checkedSaved
    split
    · split
      · exact ih hrest
      · next hlong => exact .error fun _ h => Error.failure.inj h ▸ hproperty (Bool.eq_false_iff.2 hlong)
    next hknown =>
    split
    · exact ih hrest
    · next type v hv =>
      refine .raised fun unwritable => hproperty ?_
      have long : (Value.isShort x.1 && v.isPrintable) = false := unwritable
      -- The value itself was shown already.
      obtain ⟨p, hp⟩ := OrderedMap.contains_iff.1 (show e.store.contains x.1 = true by simpa using hknown)
      rw [Store.convert_of_property hp] at hv
      rcases PropertyType.convert_error hv with ⟨herr, hshown⟩ | ⟨cause, herr, -⟩
      · cases herr
        rw [hshown, Bool.and_true] at long
        exact long
      · cases herr
    · next err _ herr =>
      refine .error fun cause hcause => ?_
      rw [hcause] at herr
      rcases Store.convert_eq_failure_iff.1 herr with hstrays | ⟨rfl, -, hlong⟩
      · exact .inl ⟨x, hx, hstrays⟩
      · exact hproperty hlong

theorem check_breaks (e : Engine) (s : Snapshot) : BreaksOnly (e.Undone s) (e.check s) := by
  have hstep : ∀ id ∈ s.stepIds, Value.isShort id = false → e.Undone s (.usage .tooManyDigits) :=
    fun id hid long => .inr ⟨rfl, .step hid long⟩
  refine (checkedHistory_breaks e s).bind fun history hhistory => ?_
  obtain ⟨rfl, -⟩ := checkedHistory_ok hhistory
  refine FailsOnly.bind (checkedLinks_breaks fun id hid => hstep id (mem_stepIds_of_mem_path id hid)) fun _ _ => ?_
  refine FailsOnly.bind (checkedChoices_breaks fun x hx long => ?_) fun _ _ => ?_
  · rcases Bool.and_eq_false_iff.1 long with long | long
    · exact hstep x.1 (List.mem_append_right _ (List.mem_map_of_mem hx)) long
    · exact .inr ⟨rfl, .choice hx long⟩
  · exact (checkedSaved_breaks e s fun _ hx => hx).bind fun _ _ => .ok _

/-- A value that was checked is a value of the snapshot in the form of its property. -/
theorem converted_of_check {s : Snapshot} {r : Restored} (h : e.check s = .ok r) {x : Int × Value}
    (hx : x ∈ r.values.entries) : ∃ y ∈ s.values.entries, y.1 = x.1 ∧ e.store.convert y.1 y.2 = .ok x.2 := by
  obtain ⟨-, -, -, hvalues, -⟩ := check_ok_eq h
  rw [hvalues] at hx
  obtain ⟨y, hy, hmap⟩ := List.mem_filterMap.1 hx
  obtain ⟨w, hw, rfl⟩ := Option.map_eq_some_iff.1 hmap
  have hconvert := Store.convert_congr (s := .empty e.store.schema) (t := e.store) rfl y.1 y.2
  exact ⟨y, hy, rfl, hconvert.symm.trans (ok_of_toOption hw)⟩

/-- **Restoring breaks off** only if the conversion of a saved value strays, or a number is too long. -/
theorem restore_breaks (q : e.Quiet) {s : Snapshot} (h : (restore s).outcome e = .error (.failure cause)) :
    e.Undone s cause := by
  have heq := restore_eq (e := e) (s := s)
  cases hcheck : e.check s with
  | error err =>
    rw [hcheck] at heq
    rw [Act.outcome_error heq] at h
    obtain rfl := Except.error.inj h
    exact check_breaks e s _ hcheck cause rfl
  | ok r =>
    rw [hcheck] at heq
    dsimp only at heq
    cases hlog : Store.logAll r.values.entries with
    | ok _ =>
      rw [hlog] at heq
      rw [Act.outcome_ok (heq.trans (Quiet.report_ok (by exact q) _ _))] at h
      cases h
    | error err =>
      rw [hlog] at heq
      rw [Act.outcome_error heq] at h
      obtain ⟨rfl, before, x, after, hentries, -, hlong, -⟩ := Store.made_of_logAll_error hlog
      obtain rfl := Error.failure.inj (Except.error.inj h)
      have hx : x ∈ r.values.entries := hentries ▸ List.mem_append_right _ List.mem_cons_self
      obtain ⟨y, hy, hkey, hconvert⟩ := converted_of_check hcheck hx
      refine .inr ⟨rfl, ?_⟩
      rcases Bool.and_eq_false_iff.1 hlong with hlong | hlong
      · exact .property hy (hkey ▸ hlong)
      · exact .value hy hconvert hlong

theorem restoreText_breaks (q : e.Quiet) {text : String}
    (h : (restoreText text).outcome e = .error (.failure cause)) :
    (∃ s, Saved.read e.stepTags e.propertyTags text = .ok s ∧ e.Undone s cause) ∨
      cause = .usage .tooManyDigits ∧
        ∃ refusal, Saved.read e.stepTags e.propertyTags text = .error refusal ∧ refusal.isWritable = false := by
  cases hread : Saved.read e.stepTags e.propertyTags text with
  | ok s =>
    rw [Act.outcome_congr (restoreText_eq hread)] at h
    exact .inl ⟨s, rfl, restore_breaks q h⟩
  | error refusal =>
    have heq : restoreText text e = .error (.raised refusal) e := by
      unfold restoreText
      rw [Act.bind_ok (Act.get_eq e), hread]
      exact Act.bind_error rfl
    rw [Act.outcome_error heq] at h
    have hraised : BreaksOnly (fun cause => cause = .usage .tooManyDigits ∧ refusal.isWritable = false)
        (.error (.raised refusal) : Except Error Unit) := .raised fun long => ⟨rfl, long⟩
    obtain ⟨hcause, hlong⟩ := hraised _ rfl cause (Except.error.inj h)
    exact .inr ⟨hcause, refusal, rfl, hlong⟩

/-- **Conversion fails in one way unless it strays.** It gives a value or refuses the one it was given, except
where it breaks off because it strays: exactly for an integer beyond every double that is to be a double, and for
a value without a form that is too long to be shown. Whatever is done with values breaks off for no other reason
that lies in their conversion. Writing a value to an engine whose listeners do not fail breaks off exactly if its
conversion strays, or a number is too long to be logged. Restoring a snapshot or a text breaks off only if the
conversion of one of its values strays, or a number is too long to be written; adding steps and choices for these
two reasons, or for a step number that cannot be looked up. Everything else is refused. -/
theorem conversion_strays (type : PropertyType) (v : Value) :
    (((∃ w, type.convert v = .ok w) ∨ type.convert v = .error (.script (.value (.invalid type v)))) ↔
      ¬∃ cause, type.Strays v cause) ∧
    (∀ cause, type.convert v = .error (.failure cause) ↔ type.Strays v cause) ∧
    (∀ e : Engine, e.Quiet →
      (∀ id v cause, (setValue id v).outcome e = .error (.failure cause) ↔
        e.store.schema.Strays id v cause ∨ cause = .usage .tooManyDigits ∧ e.store.Unlogged id v) ∧
      (∀ s cause, (restore s).outcome e = .error (.failure cause) → e.Undone s cause) ∧
      ∀ text cause, (restoreText text).outcome e = .error (.failure cause) →
        (∃ s, Saved.read e.stepTags e.propertyTags text = .ok s ∧ e.Undone s cause) ∨
          cause = .usage .tooManyDigits ∧
            ∃ refusal, Saved.read e.stepTags e.propertyTags text = .error refusal ∧ refusal.isWritable = false) ∧
    ∀ (edit : Edit) s t cause, edit.perform s = .error (.failure cause) t →
      (∃ x ∈ edit.values, s.schema.Strays x.1 x.2 cause) ∨ cause = .usage .tooManyDigits ∨ cause = .wrongType := by
  refine ⟨⟨?_, fun hstays => ?_⟩, fun cause => PropertyType.convert_eq_failure_iff, fun e q => ?_,
    fun edit s t cause h => Edit.perform_breaks h⟩
  · rintro (⟨w, hw⟩ | hrefused) ⟨cause, hstrays⟩
    · rw [PropertyType.convert_eq_failure_iff.2 hstrays] at hw
      cases hw
    · rw [PropertyType.convert_eq_failure_iff.2 hstrays] at hrefused
      cases hrefused
  · cases hconvert : type.convert v with
    | ok w => exact .inl ⟨w, rfl⟩
    | error err =>
      rcases PropertyType.convert_error hconvert with ⟨rfl, -⟩ | ⟨cause, rfl, hstrays⟩
      · exact .inr rfl
      · exact absurd ⟨cause, hstrays⟩ hstays
  · exact ⟨fun id v cause => setValue_eq_failure_iff q id v, fun s cause => restore_breaks q,
      fun text cause => restoreText_breaks q⟩

/-! ## A ledger -/

/-- A property for doubles. -/
def balance : Property := ⟨1, "balance", .double, none, Int.zero_lt_one, by decide⟩

/-- A script without steps over it. -/
def blankLedger : Script := ⟨Schema.empty.declare balance, .empty, none, false⟩

/-- An integer beyond every double. -/
def fortune : Int := 10 ^ 400

theorem fortune_great : Number.overflowBound ≤ fortune.natAbs := by decide +kernel

/-- A fortune that is written to a ledger breaks off. -/
theorem fortune_strays :
    let e := ofScript blankLedger .empty
    e.Quiet ∧ PropertyType.double.convert (.int fortune) = .error (.failure .overflow) ∧
      (setValue 1 (.int fortune)).outcome e = .error (.failure .overflow) := by
  intro e
  obtain ⟨-, hconvert, hengine, -⟩ := conversion_strays .double (.int fortune)
  have quiet : e.Quiet := ofScript_quiet blankLedger .empty
  have hstrays : PropertyType.double.Strays (.int fortune) .overflow := .overflow fortune_great
  exact ⟨quiet, (hconvert _).2 hstrays, ((hengine e quiet).1 _ _ _).2 (.inl ⟨balance, rfl, hstrays⟩)⟩

/-- Whether a result broke off because a number is too great. -/
def overflows {α : Type} : Except Error α → Bool
  | .error (.failure .overflow) => true
  | _ => false

theorem eq_of_overflows {α : Type} {x : Except Error α} (h : overflows x = true) :
    x = .error (.failure .overflow) := by
  unfold overflows at h
  split at h
  · rfl
  · cases h

/-- A fortune is neither taken nor refused, by whichever way it comes. -/
theorem fortune_not_refused :
    let e := ofScript blankLedger .empty
    let fortunes : OrderedMap Int Value := .ofList [(1, .int fortune)]
    let payDay : StepDraft := { id := .int 1, first := true, defaults := fortunes }
    ¬((∃ w, PropertyType.double.convert (.int fortune) = .ok w) ∨
      ∃ cause, PropertyType.double.convert (.int fortune) = .error (.script cause)) ∧
    (setValue 1 (.int fortune)).outcome e = .error (.failure .overflow) ∧
    (restore { values := fortunes }).outcome e = .error (.failure .overflow) ∧
    blankLedger.addSay "Pay day" payDay = .error (.failure .overflow) := by
  intro e fortunes payDay
  have hconvert : PropertyType.double.convert (.int fortune) = .error (.failure .overflow) :=
    eq_of_overflows (by decide +kernel)
  refine ⟨?_, eq_of_overflows (by decide +kernel), eq_of_overflows (by decide +kernel),
    eq_of_overflows (by decide +kernel)⟩
  rw [hconvert]
  rintro (⟨w, hw⟩ | ⟨cause, hcause⟩)
  · cases hw
  · cases hcause

end Engine
end Walkthrough
