/-
# A value that is unset counts as not written

A store tells a property that was written as unset from one that was never written: only the first is
initialized. No operation of an engine and nothing that an engine says depends on it. Two engines are
`Indistinct` if they agree in everything but that; they may have been reached in different ways, as long as
their functions answer the same from now on. Then whatever a caller does with both of them gives the same:

| what is done | the same of both |
| --- | --- |
| an operation | the result or the error, the events, the calls of functions |
| a question about the state | the answer |
| a snapshot | the position, and the values and choices as maps |

Two engines that went the same way since they were two others are `Abreast` of them. One interaction leaves
indistinct engines abreast (`Indistinct.interact`), and so does any number of them.
-/

import Walkthrough.Proofs.Engine.Simulation
import Walkthrough.Proofs.Engine.Structural

namespace Walkthrough

/-! ## Stores -/

namespace Store

variable {s t : Store}

/-- **Two stores that hold the same**, where a property that was written as unset counts as one that was not
written. -/
structure Indistinct (s t : Store) : Prop where
  schema : t.schema = s.schema
  value : ∀ id, t.value id = s.value id

namespace Indistinct

theorem contains_eq (h : s.Indistinct t) (id : Int) : t.contains id = s.contains id := by
  unfold contains
  rw [h.schema]

theorem get_eq (h : s.Indistinct t) (id : Int) : t.get id = s.get id := by
  unfold get
  rw [h.contains_eq, h.value]

theorem convert_eq (h : s.Indistinct t) (id : Int) (v : Value) : t.convert id v = s.convert id v :=
  convert_congr h.schema id v

theorem write (h : s.Indistinct t) (id : Int) (v : Value) : (s.write id v).Indistinct (t.write id v) :=
  ⟨h.schema, fun other => by rw [value_write, value_write, h.value]⟩

theorem reset (h : s.Indistinct t) : s.reset.Indistinct t.reset :=
  ⟨h.schema, fun _ => rfl⟩

/-- **Writing a property as unset** that is unset makes no difference. -/
theorem of_unset {id : Int} (h : s.value id = .unset) : s.Indistinct (s.write id .unset) := by
  refine ⟨rfl, fun other => ?_⟩
  rw [value_write]
  split
  · next hother => rw [hother, h]
  · rfl

/-- Both hold the same where they are not blank. -/
theorem filled_eq (h : s.Indistinct t) (id : Int) :
    (t.values.get? id).filter (fun v => !v.isBlank) = (s.values.get? id).filter fun v => !v.isBlank := by
  have hfilled : ∀ u : Store, (u.values.get? id).filter (fun v => !v.isBlank) =
      if (u.value id).isBlank then none else some (u.value id) := by
    intro u
    unfold Store.value
    cases u.values.get? id with
    | none => rfl
    | some v => cases hv : v.isBlank <;> simp [Option.filter, hv]
  rw [hfilled, hfilled, h.value]

end Indistinct
end Store

/-! ## Interactions -/

/-- The same snapshot, with its values and choices as maps. -/
structure Snapshot.Same (s t : Snapshot) : Prop where
  current : t.current = s.current
  history : t.history = s.history
  values : ∀ id, t.values.get? id = s.values.get? id
  choices : ∀ step, t.choices.get? step = s.choices.get? step

/-- What a caller can do with an engine: have it do something, or ask it something. -/
inductive Interaction where
  | request (r : Request)
  | value (id : Int)
  | missingRequired
  | stepText (id : Option Int) (rich : Bool)
  | choiceText (step choice : Int) (rich : Bool)
  | snapshot

/-- What a caller gets. -/
inductive Answer where
  | reached (step : Option Int)
  | value (v : Value)
  | missing (ids : List Int)
  | text (text : String)
  | saved (s : Snapshot)

/-- A question as an operation that changes nothing. -/
def Engine.ask (question : Engine → Except Error Answer) : Act Answer := do
  let e ← get
  lift (question e)

/-- Does what is asked for, and answers. -/
def Interaction.act : Interaction → Act Answer
  | request r => .reached <$> r.act
  | value id => Engine.ask fun e => (e.value id).map .value
  | missingRequired => Engine.ask fun e => .ok (.missing e.missingRequired)
  | stepText id rich => Engine.ask fun e => (e.stepText id rich).map .text
  | choiceText step choice rich => Engine.ask fun e => (e.choiceText step choice rich).map .text
  | snapshot => Engine.ask fun e => .ok (.saved e.snapshot)

/-- What a caller gets of interactions, one after the other and whatever comes of each, and the engine that
they leave. -/
def Engine.converse (e : Engine) : List Interaction → List (Except Error Answer) × Engine
  | [] => ([], e)
  | i :: rest => (i.act.outcome e :: (converse (i.act.after e) rest).1, (converse (i.act.after e) rest).2)

/-- **The same answer or the same error**; two snapshots are the same as maps. -/
inductive SameAnswer : Except Error Answer → Except Error Answer → Prop
  | same (x : Except Error Answer) : SameAnswer x x
  | saved {s t : Snapshot} (h : s.Same t) : SameAnswer (.ok (.saved s)) (.ok (.saved t))

/-! ## Chains -/

namespace Chain

variable {s t c d : Chain} {write : Bool}

/-- What two chains that have done the same leave in stores that held the same. -/
theorem Sim.indistinct (h : Sim s t write write c d) (hs : s.store.Indistinct t.store) :
    c.store.Indistinct d.store := by
  refine ⟨h.right.schema.trans (h.schema.trans h.left.schema.symm), fun id => ?_⟩
  rw [h.left.value, h.right.value, h.overlay, hs.value]

end Chain

namespace Engine

variable {α β : Type} {e e' f f' g g' : Engine}

/-- **Two engines that cannot be told apart**: all is the same but whether a property was written as unset
or not at all. Maps are compared by what is found in them, and functions by what they answer from now on. -/
structure Indistinct (e e' : Engine) : Prop where
  script : e'.script = e.script
  store : e.store.Indistinct e'.store
  registry : e.registry.Even e'.registry
  marks : e'.marks = e.marks
  bus : e'.bus = e.bus
  stepTags : e'.stepTags = e.stepTags
  propertyTags : e'.propertyTags = e.propertyTags
  current : e'.current = e.current
  cameFrom : ∀ step, e'.cameFrom.get? step = e.cameFrom.get? step
  selected : ∀ step, e'.selected.get? step = e.selected.get? step

/-- **Two engines that went the same way** since they were `e` and `e'`: they cannot be told apart, they told
the same events and made the same calls. -/
structure Abreast (e e' f f' : Engine) : Prop where
  indistinct : f.Indistinct f'
  told : ∃ events, f.emitted = e.emitted ++ events ∧ f'.emitted = e'.emitted ++ events
  made : ∃ calls, f.registry.calls = e.registry.calls ++ calls ∧
    f'.registry.calls = e'.registry.calls ++ calls

/-- **The same result or the same error**, of two engines that went the same way to get there. -/
inductive Agree (e e' : Engine) : EStateM.Result Error Engine α → EStateM.Result Error Engine α → Prop
  | ok {a : α} {f f' : Engine} (h : Abreast e e' f f') : Agree e e' (.ok a f) (.ok a f')
  | error {err : Error} {f f' : Engine} (h : Abreast e e' f f') : Agree e e' (.error err f) (.error err f')

namespace Abreast

/-- Nothing was told or called since. -/
theorem still (h : f.Indistinct f') (emitted : f.emitted = e.emitted) (emitted' : f'.emitted = e'.emitted)
    (calls : f.registry.calls = e.registry.calls) (calls' : f'.registry.calls = e'.registry.calls) :
    Abreast e e' f f' :=
  ⟨h, ⟨[], by rw [emitted, List.append_nil], by rw [emitted', List.append_nil]⟩,
    [], by rw [calls, List.append_nil], by rw [calls', List.append_nil]⟩

theorem trans (h : Abreast e e' f f') (h' : Abreast f f' g g') : Abreast e e' g g' := by
  obtain ⟨-, ⟨told, hf, hf'⟩, made, hm, hm'⟩ := h
  obtain ⟨hi, ⟨told₁, hg, hg'⟩, made₁, hn, hn'⟩ := h'
  refine ⟨hi, ⟨told ++ told₁, ?_, ?_⟩, made ++ made₁, ?_, ?_⟩
  · rw [hg, hf, List.append_assoc]
  · rw [hg', hf', List.append_assoc]
  · rw [hn, hm, List.append_assoc]
  · rw [hn', hm', List.append_assoc]

end Abreast

theorem Indistinct.abreast (h : e.Indistinct e') : Abreast e e' e e' := .still h rfl rfl rfl rfl

namespace Agree

theorem since {x y : EStateM.Result Error Engine α} (h : Abreast e e' f f') (hxy : Agree f f' x y) :
    Agree e e' x y := by
  cases hxy with
  | ok h' => exact .ok (h.trans h')
  | error h' => exact .error (h.trans h')

/-- One operation after the other. -/
theorem bind {m m' : Act α} {k k' : α → Act β} (hm : Agree e e' (m e) (m' e'))
    (hk : ∀ a f f', f.Indistinct f' → Agree f f' (k a f) (k' a f')) :
    Agree e e' ((m >>= k) e) ((m' >>= k') e') := by
  rw [Act.bind_eq, Act.bind_eq]
  generalize m e = x at hm
  generalize m' e' = y at hm
  cases hm with
  | ok h => exact .since h (hk _ _ _ h.indistinct)
  | error h => exact .error h

theorem map {m m' : Act α} (g : α → β) (h : Agree e e' (m e) (m' e')) :
    Agree e e' ((g <$> m) e) ((g <$> m') e') := by
  change Agree e e' (EStateM.map g m e) (EStateM.map g m' e')
  unfold EStateM.map
  generalize m e = x at h
  generalize m' e' = y at h
  cases h with
  | ok h => exact .ok h
  | error h => exact .error h

theorem same {m : Act Answer} (h : Agree e e' (m e) (m e')) :
    SameAnswer (m.outcome e) (m.outcome e') ∧ Abreast e e' (m.after e) (m.after e') := by
  unfold Act.outcome Act.after
  generalize m e = x at h
  generalize m e' = y at h
  cases h with
  | ok h => exact ⟨.same _, h⟩
  | error h => exact ⟨.same _, h⟩

end Agree

namespace Indistinct

/-! ## What both engines say -/

theorem selectedChoice_eq (h : e.Indistinct e') (step : Int) :
    e'.selectedChoice step = e.selectedChoice step := by
  unfold selectedChoice
  rw [h.selected, h.script]

theorem path_eq (h : e.Indistinct e') : e'.path = e.path := by
  have hwalk : ∀ fuel start met, walkBack e'.cameFrom fuel start met = walkBack e.cameFrom fuel start met := by
    intro fuel
    induction fuel with
    | zero => exact fun _ _ => rfl
    | succ fuel ih =>
      intro start met
      cases start with
      | none => rfl
      | some step =>
        unfold walkBack
        rw [h.cameFrom, ih]
  unfold path
  rw [hwalk, h.current, OrderedMap.size_congr h.cameFrom]

/-- **The way of a move** is the same from both, and it leaves both the same. -/
theorem travel_eq (h : e.Indistinct e') (write : Bool) :
    (e'.travel write).1 = (e.travel write).1 ∧
      Chain.Sim (e.newChain e.current.toList) (e'.newChain e.current.toList) write write
        (e.travel write).2 (e'.travel write).2 := by
  have hsim : Chain.Sim (e.newChain e.current.toList) (e'.newChain e.current.toList) write write
      (e.newChain e.current.toList) (e'.newChain e.current.toList) :=
    newChain_sim _ h.registry h.store.schema
  have hblank : ∀ id, (e'.store.value id).isBlank = (e.store.value id).isBlank := fun id =>
    congrArg Value.isBlank (h.store.value id)
  have hdeparture : e'.departure = e.departure :=
    departure_congr h.current (by rw [h.script]) (by rw [h.script]) h.selectedChoice_eq h.registry
      h.store.schema hblank fun id _ => h.store.value id
  unfold Engine.travel
  rw [hdeparture, h.current, h.script]
  cases e.departure with
  | error halt => exact ⟨rfl, hsim⟩
  | ok step => exact hsim.run_eq hblank fun _ _ id _ => h.store.value id

/-- The engines after the way of a move, for good. -/
theorem abreast_afterChain (h : e.Indistinct e') :
    Abreast e e' (e.afterChain (e.travel true).2) (e'.afterChain (e'.travel true).2) := by
  have hsim := (h.travel_eq true).2
  exact ⟨{ h with store := hsim.indistinct h.store, registry := hsim.registry.even },
    ⟨[], (List.append_nil _).symm, (List.append_nil _).symm⟩, hsim.registry.calls⟩

/-! ## What is told and written -/

theorem agree_emit (h : e.Indistinct e') (event : Event) : Agree e e' (emit event e) (emit event e') := by
  have hobjection : e'.objection event = e.objection event := by
    unfold objection
    rw [h.bus]
  have hnoting : Abreast e e' (e.noting event) (e'.noting event) :=
    ⟨{ h with }, ⟨[event], rfl, rfl⟩, [], (List.append_nil _).symm, (List.append_nil _).symm⟩
  rw [emit_eq, emit_eq, hobjection]
  cases e.objection event with
  | some err => exact .error hnoting
  | none => exact .ok hnoting

theorem agree_done (h : e.Indistinct e') (a : α) : Agree e e' (.ok a e) (.ok a e') := .ok h.abreast

theorem agree_refuse (h : e.Indistinct e') (err : Error) :
    Agree e e' (.error err e : EStateM.Result Error Engine α) (.error err e') := .error h.abreast

theorem agree_lift (h : e.Indistinct e') (x : Except Error α) : Agree e e' (lift x e) (lift x e') := by
  cases x with
  | ok a => exact h.agree_done a
  | error err => exact h.agree_refuse err

theorem agree_conclude (h : e.Indistinct e') (x : Except Halt α) : Agree e e' (conclude x e) (conclude x e') := by
  rcases x with (step | walked | err) | a
  · exact .bind (h.agree_emit _) fun _ _ _ h => h.agree_refuse _
  · exact h.agree_refuse _
  · exact h.agree_refuse _
  · exact h.agree_done a

/-- Writing a value, whether it can be logged or not. -/
theorem agree_write (h : e.Indistinct e') (id : Int) (v : Value) :
    Agree e e' (write id v e) (write id v e') := by
  cases hv : e.store.convert id v with
  | error err =>
    rw [write_of_error hv, write_of_error ((h.store.convert_eq id v).trans hv)]
    exact h.agree_refuse err
  | ok w =>
    have hwrite : Indistinct { e with store := e.store.write id w } { e' with store := e'.store.write id w } :=
      { h with store := h.store.write id w }
    rw [write_of_convert hv, write_of_convert ((h.store.convert_eq id v).trans hv)]
    exact .since (.still hwrite rfl rfl rfl rfl) (hwrite.agree_lift _)

theorem agree_writeAll (h : e.Indistinct e') (es : List (Int × Value)) :
    Agree e e' (writeAll es e) (writeAll es e') := by
  induction es generalizing e e' with
  | nil => exact h.agree_done ()
  | cons x rest ih => exact .bind (h.agree_write x.1 x.2) fun _ _ _ h => ih h

/-! ## Operations -/

/-- **Looking ahead.** -/
theorem agree_peek (h : e.Indistinct e') : Agree e e' (peek e) (peek e') := by
  obtain ⟨hresult, hsim⟩ := h.travel_eq false
  have hpeeked : Abreast e e' { e with registry := (e.travel false).2.registry }
      { e' with registry := (e'.travel false).2.registry } :=
    ⟨{ h with registry := hsim.registry.even }, ⟨[], (List.append_nil _).symm, (List.append_nil _).symm⟩,
      hsim.registry.calls⟩
  unfold peek
  rw [Act.bind_eq, Act.bind_eq, Act.get_eq, Act.get_eq]
  simp only [lookAhead_eq]
  refine .since hpeeked ?_
  rw [hresult]
  cases (e.travel false).1 with
  | ok step => exact hpeeked.indistinct.agree_done _
  | error halt => exact hpeeked.indistinct.agree_done _

theorem agree_start (h : e.Indistinct e') : Agree e e' (start e) (start e') := by
  cases hc : e.current with
  | some current =>
    rw [start_eq_of_started hc, start_eq_of_started (h.current.trans hc)]
    exact h.agree_refuse _
  | none =>
    have hstarted : ∀ f : Engine, f.current = none → f.isStarted = false := fun f hf => by
      rw [isStarted, hf]
      rfl
    unfold start
    rw [Act.bind_eq, Act.bind_eq, Act.get_eq, Act.get_eq]
    simp only [hstarted e hc, hstarted e' (h.current.trans hc), Bool.false_eq_true, if_false, h.script]
    cases hfirst : e.script.first with
    | none => exact h.agree_refuse _
    | some first =>
      have hfreeze : Indistinct { e with script := e.script.freeze } { e' with script := e.script.freeze } :=
        { h with script := rfl }
      have hway : resolveStart { e with script := e.script.freeze } true first =
          Engine.travel { e with script := e.script.freeze } true := resolveStart_eq hc hfirst
      have hway' : resolveStart { e' with script := e.script.freeze } true first =
          Engine.travel { e' with script := e.script.freeze } true :=
        resolveStart_eq (h.current.trans hc) hfirst
      dsimp only
      rw [hway, hway', (hfreeze.travel_eq true).1]
      have habreast := hfreeze.abreast_afterChain
      refine .since (.trans (.still hfreeze rfl rfl rfl rfl) habreast) ?_
      refine .bind (habreast.indistinct.agree_conclude _) fun step _ _ h => ?_
      refine .bind (h.agree_writeAll _) fun _ f f' h => ?_
      have hmove : Indistinct { f with current := some step.id } { f' with current := some step.id } :=
        { h with current := rfl }
      refine .since (.still hmove rfl rfl rfl rfl) ?_
      exact .bind (hmove.agree_emit _) fun _ _ _ h => h.agree_emit _

/-- The links after a move. -/
theorem linksAfter_eq (h : e.Indistinct e') (left target step : Int) :
    (e'.linksAfter left target).get? step = (e.linksAfter left target).get? step := by
  unfold linksAfter
  rw [h.path_eq]
  dsimp only
  split
  · rw [OrderedMap.get?_foldl_erase, OrderedMap.get?_foldl_erase, h.cameFrom]
  · rw [OrderedMap.get?_insert, OrderedMap.get?_insert, h.cameFrom]

theorem agree_commit (h : e.Indistinct e') (left : Int) (target : Step) :
    Agree e e' (commit left target e) (commit left target e') := by
  have hmove : Indistinct { e with cameFrom := e.linksAfter left target.id, current := some target.id }
      { e' with cameFrom := e'.linksAfter left target.id, current := some target.id } :=
    { h with current := rfl, cameFrom := h.linksAfter_eq left target.id }
  refine .since (.still hmove rfl rfl rfl rfl) ?_
  exact .bind (hmove.agree_writeAll _) fun _ _ _ h => .bind (h.agree_emit _) fun _ _ _ h => h.agree_emit _

theorem agree_advance (h : e.Indistinct e') : Agree e e' (advance e) (advance e') := by
  unfold advance
  rw [Act.bind_eq, Act.bind_eq, Act.get_eq, Act.get_eq]
  dsimp only
  rw [h.current]
  cases hc : e.current with
  | none =>
    refine .bind h.agree_start fun _ f f' h => ?_
    rw [Act.bind_eq, Act.bind_eq, Act.get_eq, Act.get_eq]
    dsimp only
    rw [h.current]
    exact h.agree_done _
  | some current =>
    dsimp only
    rw [resolve_eq hc, resolve_eq (h.current.trans hc), (h.travel_eq true).1]
    have habreast := h.abreast_afterChain
    refine .since habreast ?_
    refine .bind (habreast.indistinct.agree_conclude _) fun step _ _ h => ?_
    exact .bind (h.agree_commit current step) fun _ _ _ h => h.agree_done _

theorem agree_back (h : e.Indistinct e') : Agree e e' (back e) (back e') := by
  unfold back
  rw [Act.bind_eq, Act.bind_eq, Act.get_eq, Act.get_eq]
  dsimp only
  rw [h.current]
  cases e.current with
  | none => exact h.agree_refuse _
  | some left =>
    dsimp only
    rw [h.cameFrom]
    cases e.cameFrom.get? left with
    | none => exact h.agree_refuse _
    | some previous =>
      have hmove : Indistinct { e with cameFrom := e.cameFrom.erase left, current := some previous }
          { e' with cameFrom := e'.cameFrom.erase left, current := some previous } :=
        { h with
          current := rfl
          cameFrom := fun step => by rw [OrderedMap.get?_erase, OrderedMap.get?_erase, h.cameFrom] }
      refine .since (.still hmove rfl rfl rfl rfl) ?_
      exact .bind (hmove.agree_emit _) fun _ _ _ h => .bind (h.agree_emit _) fun _ _ _ h => h.agree_done _

/-- **Writing a value**, also an unset one. -/
theorem agree_setValue (h : e.Indistinct e') (id : Int) (v : Value) :
    Agree e e' (setValue id v e) (setValue id v e') := by
  unfold setValue
  rw [Act.bind_eq, Act.bind_eq, Act.get_eq, Act.get_eq]
  dsimp only
  rw [h.store.contains_eq]
  split
  · exact h.agree_refuse _
  · refine .bind h.agree_peek fun before f f' h => ?_
    refine .bind (h.agree_write id v) fun _ f f' h => ?_
    refine .bind h.agree_peek fun after f f' h => ?_
    cases after with
    | none => exact h.agree_done ()
    | some step =>
      dsimp only
      split
      · exact h.agree_emit _
      · exact h.agree_done ()

theorem agree_setValues (h : e.Indistinct e') (es : List (Int × Value)) :
    Agree e e' (setValues es e) (setValues es e') := by
  induction es generalizing e e' with
  | nil => exact h.agree_done ()
  | cons x rest ih => exact .bind (h.agree_setValue x.1 x.2) fun _ _ _ h => ih h

theorem agree_selectChoice (h : e.Indistinct e') (step choice : Int) :
    Agree e e' (selectChoice step choice e) (selectChoice step choice e') := by
  unfold selectChoice
  rw [Act.bind_eq, Act.bind_eq, Act.get_eq, Act.get_eq]
  dsimp only
  rw [h.current, h.script, h.selected]
  cases e.current with
  | none => exact h.agree_refuse _
  | some current =>
    dsimp only
    split
    · exact h.agree_refuse _
    · cases e.script.choice? step choice with
      | none => exact h.agree_refuse _
      | some c =>
        dsimp only
        split
        · exact h.agree_done ()
        · refine .bind (h.agree_setValues _) fun _ f f' h => ?_
          have hselect : Indistinct { f with selected := f.selected.insert step choice }
              { f' with selected := f'.selected.insert step choice } :=
            { h with selected := fun other => by rw [OrderedMap.get?_insert, OrderedMap.get?_insert, h.selected] }
          exact .since (.still hselect rfl rfl rfl rfl) (hselect.agree_emit _)

/-! ## Restoring -/

theorem check_eq (h : e.Indistinct e') (s : Snapshot) : e'.check s = e.check s := by
  have hsaved : ∀ (es : List (Int × Value)) values,
      checkedSaved e'.store values es = checkedSaved e.store values es := by
    intro es
    induction es with
    | nil => exact fun _ => rfl
    | cons x rest ih =>
      intro values
      unfold checkedSaved
      simp only [h.store.contains_eq, h.store.convert_eq, ih]
  unfold check
  simp only [h.script, hsaved]

theorem agree_emitChoices (h : e.Indistinct e') (es : List (Int × Int)) :
    Agree e e' (emitChoices es e) (emitChoices es e') := by
  induction es generalizing e e' with
  | nil => exact h.agree_done ()
  | cons x rest ih => exact .bind (h.agree_emit _) fun _ _ _ h => ih h

theorem agree_adopt (h : e.Indistinct e') (r : Restored) : Agree e e' (adopt r e) (adopt r e') := by
  have hreset : Indistinct { e with script := e.script.freeze, store := e.store.reset }
      { e' with script := e'.script.freeze, store := e'.store.reset } :=
    { h with script := congrArg Script.freeze h.script, store := h.store.reset }
  refine .since (.still hreset rfl rfl rfl rfl) ?_
  refine .bind (hreset.agree_writeAll _) fun _ f f' h => ?_
  rw [Act.bind_eq, Act.bind_eq, Act.get_eq, Act.get_eq]
  dsimp only
  rw [h.current]
  have hplace : Indistinct { f with cameFrom := r.cameFrom, selected := r.selected, current := r.current }
      { f' with cameFrom := r.cameFrom, selected := r.selected, current := r.current } :=
    { h with cameFrom := fun _ => rfl, selected := fun _ => rfl, current := rfl }
  refine .since (.still hplace rfl rfl rfl rfl) ?_
  refine .bind (hplace.agree_emitChoices _) fun _ _ _ h => ?_
  cases r.current with
  | none => exact h.agree_done ()
  | some target =>
    dsimp only
    split
    · exact h.agree_done ()
    · rcases f.current with _ | left
      · exact .bind (h.agree_emit _) fun _ _ _ h => h.agree_emit _
      · exact .bind (h.agree_emit _) fun _ _ _ h => h.agree_emit _

theorem agree_restore (h : e.Indistinct e') (s : Snapshot) : Agree e e' (restore s e) (restore s e') := by
  unfold restore
  rw [Act.bind_eq, Act.bind_eq, Act.get_eq, Act.get_eq]
  dsimp only
  rw [h.check_eq]
  exact .bind (h.agree_lift _) fun r _ _ h => h.agree_adopt r

/-- **One request** ends the same for both. -/
theorem agree_request (h : e.Indistinct e') (r : Request) : Agree e e' (r.act e) (r.act e') := by
  cases r with
  | nextStep => exact h.agree_peek
  | perform op =>
    cases op with
    | start => exact .map _ h.agree_start
    | advance => exact .map _ h.agree_advance
    | back => exact .map _ h.agree_back
    | selectChoice step choice => exact .map _ (h.agree_selectChoice step choice)
    | setValue id v => exact .map _ (h.agree_setValue id v)
    | restore s => exact .map _ (h.agree_restore s)

/-! ## Questions -/

theorem value_eq (h : e.Indistinct e') (id : Int) : e'.value id = e.value id := h.store.get_eq id

theorem currentStep_eq (h : e.Indistinct e') : e'.currentStep = e.currentStep := by
  unfold currentStep
  rw [h.current, h.script]

theorem missingRequired_eq (h : e.Indistinct e') : e'.missingRequired = e.missingRequired := by
  have hchoice : e'.currentChoice = e.currentChoice := by
    unfold currentChoice
    rw [h.current]
    exact congrArg e.current.bind (funext h.selectedChoice_eq)
  unfold missingRequired Chain.missing
  rw [h.currentStep_eq, hchoice]
  simp only [h.store.value]

theorem render_eq (h : e.Indistinct e') (template : String) (rich : Bool) :
    e'.render template rich = e.render template rich := by
  unfold render
  simp only [h.marks, h.value_eq]

theorem stepText_eq (h : e.Indistinct e') (id : Option Int) (rich : Bool) :
    e'.stepText id rich = e.stepText id rich := by
  unfold stepText
  simp only [h.current, h.script, h.render_eq]

theorem choiceText_eq (h : e.Indistinct e') (step choice : Int) (rich : Bool) :
    e'.choiceText step choice rich = e.choiceText step choice rich := by
  unfold choiceText
  simp only [h.script, h.render_eq]

/-- **A snapshot** keeps no unset values. -/
theorem snapshot_same (h : e.Indistinct e') : e.snapshot.Same e'.snapshot := by
  refine ⟨h.current, h.path_eq, fun id => ?_, h.selected⟩
  have hvalues : ∀ u : Engine, u.snapshot.values.get? id =
      (u.store.values.get? id).filter fun v => !v.isBlank := fun _ =>
    OrderedMap.get?_of_filter (p := fun v : Value => !v.isBlank) rfl id
  rw [hvalues, hvalues, h.store.filled_eq]

theorem agree_ask (h : e.Indistinct e') {question : Engine → Except Error Answer}
    (hq : question e' = question e) : Agree e e' (ask question e) (ask question e') := by
  unfold ask
  rw [Act.bind_eq, Act.bind_eq, Act.get_eq, Act.get_eq]
  dsimp only
  rw [hq]
  exact h.agree_lift _

/-! ## Runs -/

/-- **One interaction** gives the same of both. -/
theorem interact (h : e.Indistinct e') (i : Interaction) :
    SameAnswer (i.act.outcome e) (i.act.outcome e') ∧ Abreast e e' (i.act.after e) (i.act.after e') := by
  cases i with
  | request r => exact (Agree.map _ (h.agree_request r)).same
  | value id => exact (h.agree_ask (by rw [h.value_eq])).same
  | missingRequired => exact (h.agree_ask (by rw [h.missingRequired_eq])).same
  | stepText id rich => exact (h.agree_ask (by rw [h.stepText_eq])).same
  | choiceText step choice rich => exact (h.agree_ask (by rw [h.choiceText_eq])).same
  | snapshot => exact ⟨.saved h.snapshot_same, h.abreast⟩

/-- **Writing nothing is not writing.** Take two engines that agree in everything but whether properties were
written as unset or not at all, with any functions that answer the same from now on. Whatever interactions
follow, each gives the same answer or the same error of both; both tell the same events, call the same
functions with the same arguments, and are left in states that agree again. -/
theorem converse_same (h : e.Indistinct e') (is : List Interaction) :
    List.Forall₂ SameAnswer (e.converse is).1 (e'.converse is).1 ∧
      Abreast e e' (e.converse is).2 (e'.converse is).2 := by
  induction is generalizing e e' with
  | nil => exact ⟨.nil, h.abreast⟩
  | cons i rest ih =>
    obtain ⟨hanswer, habreast⟩ := h.interact i
    obtain ⟨hrest, hlast⟩ := ih habreast.indistinct
    exact ⟨.cons hanswer hrest, habreast.trans hlast⟩

/-- An engine in which an unset property was written as unset is indistinct. -/
theorem of_unset {id : Int} (h : e.store.value id = .unset) :
    e.Indistinct { e with store := e.store.write id .unset } :=
  ⟨rfl, .of_unset h, .refl _, rfl, rfl, rfl, rfl, rfl, fun _ => rfl, fun _ => rfl⟩

end Indistinct

/-- A relay whose note was written as unset answers as one whose note was not written. -/
theorem relay_unwritten :
    let e := ofScript relay echoes
    let e' := { e with store := e.store.write 1 .unset }
    let is := [.request (.perform .start), .value 1, .request .nextStep, .request (.perform .advance), .snapshot]
    e.store.isInitialized 1 = false ∧ e'.store.isInitialized 1 = true ∧ e.Indistinct e' ∧
      List.Forall₂ SameAnswer (e.converse is).1 (e'.converse is).1 ∧
        Abreast e e' (e.converse is).2 (e'.converse is).2 := by
  intro e e' is
  have hunset : e.store.value 1 = .unset := Value.eq_of_same (by decide +kernel) rfl
  have h : e.Indistinct e' := .of_unset hunset
  exact ⟨rfl, rfl, h, (h.converse_same is).1, (h.converse_same is).2⟩

end Engine
end Walkthrough
