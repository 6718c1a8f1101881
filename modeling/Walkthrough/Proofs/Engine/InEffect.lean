/-
# Whether a selected choice is in effect

Selecting a choice writes its values, but only if it is not the one that is selected already. In between others write
to the same properties, so what a choice has said may not hold any more when it is selected once more.

| writes | what, in this order |
| --- | --- |
| `start`, `advance` | default values and results of call steps, and the default values of the step that is reached |
| `back` | nothing |
| `selectChoice` | the values of the choice; nothing if it is selected already |
| `setValue` | the value in the form of its property |

The argument follows the selection back through the run. If a choice is selected, some operation selected it while it
was not (`selected_since`), and that operation wrote all its values. What was written since then is on record, operation
by operation (`Ledger`), and the last entry of a property tells what it holds.
-/

import Walkthrough.Proofs.Engine.Announcing
import Walkthrough.Proofs.Engine.PartialWrites
import Walkthrough.Proofs.Engine.StoredValues

namespace Walkthrough
namespace Store

variable {s : Store}

/-- The value that was written to a property last, if any was. -/
def lastWritten (writes : List (Int × Value)) (id : Int) : Option Value := writes.reverse.lookup id

theorem lastWritten_append (xs ys : List (Int × Value)) (id : Int) :
    lastWritten (xs ++ ys) id = (lastWritten ys id).or (lastWritten xs id) := by
  unfold lastWritten
  rw [List.reverse_append, List.lookup_append]

/-- **A property holds what was written to it last**, or what it held before. -/
theorem get?_overwritten_eq (writes : List (Int × Value)) (id : Int) :
    (s.overwritten writes).values.get? id = (lastWritten writes id).or (s.values.get? id) := by
  induction writes generalizing s with
  | nil => rfl
  | cons x rest ih =>
    have hfirst : (s.write x.1 x.2).values.get? id = (lastWritten [x] id).or (s.values.get? id) := by
      rw [write, OrderedMap.get?_insert, lastWritten, List.reverse_singleton, List.lookup_cons, List.lookup_nil]
      by_cases h : id = x.1
      · simp [h]
      · simp [h, beq_eq_false_iff_ne.2 h]
    have hcons : lastWritten (x :: rest) id = (lastWritten rest id).or (lastWritten [x] id) :=
      lastWritten_append [x] rest id
    rw [overwritten_cons, ih, hfirst, hcons, Option.or_assoc]

/-- Values under different keys are all the last ones. -/
theorem lastWritten_entries {m : OrderedMap Int Value} {x : Int × Value} (h : x ∈ m.entries) :
    lastWritten m.entries x.1 = some x.2 := by
  have hheld : (overwritten (empty .empty) m.entries).values.get? x.1 = some x.2 := by
    have hvalues : (overwritten (empty .empty) m.entries).values = m := m.insertAll_entries
    rw [hvalues]
    exact OrderedMap.get?_eq_some_iff.2 h
  have hnothing : (empty .empty).values.get? x.1 = none := OrderedMap.get?_empty x.1
  rw [get?_overwritten_eq, hnothing, Option.or_none] at hheld
  exact hheld

end Store

namespace Engine

variable {e e' : Engine} {op : Operation}

/-! ## What an operation writes -/

/-- **What an operation writes**, in order. -/
inductive Writes (e : Engine) : Operation → List (Int × Value) → Prop
  | halted {op : Operation} {xs : List Chain.Completion} {begun : Option Chain.Begun} {err : Error}
      (move : op = .start ∨ op = .advance) (course : e.Course op xs begun (.error err)) :
      Writes e op (Chain.courseWrites xs begun)
  /-- The default values of the step that is reached, up to the first that cannot be logged. -/
  | arrived {op : Operation} {xs : List Chain.Completion} {step : Step}
      (move : op = .start ∨ op = .advance) (course : e.Course op xs none (.ok step)) :
      Writes e op (xs.flatMap Chain.Completion.writes ++ Store.made step.defaults.entries)
  | wentBack : Writes e .back []
  | refused {step choice : Int} : Writes e (.selectChoice step choice) []
  /-- All values of the choice, or those up to the first that cannot be logged or to which a listener objects. -/
  | chose {step choice : Int} {c : Choice} {writes : List (Int × Value)}
      (found : e.script.choice? step choice = some c) (values : writes <+: c.values.entries) :
      Writes e (.selectChoice step choice) writes
  | rejected {id : Int} {v : Value} {err : Error} (form : e.store.convert id v = .error err) :
      Writes e (.setValue id v) []
  | wrote {id : Int} {v w : Value} (form : e.store.convert id v = .ok w) : Writes e (.setValue id v) [(id, w)]

/-- A choice that was not selected at its step is selected, with all its values written. -/
structure Takes (e e' : Engine) (step choice : Int) (c : Choice) : Prop where
  found : e.script.choice? step choice = some c
  new : e.selected.get? step ≠ some choice
  noted : e'.selected = e.selected.insert step choice
  store : e'.store = e.store.overwritten c.values.entries

theorem Takes.held {step choice : Int} {c : Choice} (h : e.Takes e' step choice c) :
    ∀ x ∈ c.values.entries, e'.store.values.get? x.1 = some x.2 := by
  intro x hx
  rw [h.store, Store.get?_overwritten_eq, Store.lastWritten_entries hx, Option.some_or]

/-- Writing values that fit, whatever listeners do: those up to the first failure are written. -/
theorem setValues_wrote {es : List (Int × Value)} (h : ∀ x ∈ es, e.store.Fits x.1 x.2) :
    ∃ writes, writes <+: es ∧ ((setValues es).after e).store = e.store.overwritten writes ∧
      ((setValues es).outcome e = .ok () → writes = es) := by
  induction es generalizing e with
  | nil => exact ⟨[], List.prefix_refl _, rfl, fun _ => rfl⟩
  | cons x rest ih =>
    obtain ⟨hx, hrest⟩ := List.forall_mem_cons.1 h
    have hstore := store_after_setValue hx
    unfold setValues
    cases hset : setValue x.1 x.2 e with
    | error err e₁ =>
      rw [Act.after_error hset] at hstore
      rw [Act.after_error (Act.bind_error hset), Act.outcome_error (Act.bind_error hset)]
      exact ⟨[x], List.prefix_append [x] rest, hstore, fun hok => by cases hok⟩
    | ok u e₁ =>
      rw [Act.after_ok hset] at hstore
      have hschema : e₁.store.schema = e.store.schema := by rw [hstore]; rfl
      obtain ⟨writes, hprefix, hafter, hall⟩ := ih fun y hy => (hrest y hy).congr hschema
      rw [Act.after_congr (Act.bind_ok hset), Act.outcome_congr (Act.bind_ok hset)]
      refine ⟨x :: writes, List.prefix_cons_inj x |>.2 hprefix, ?_, fun hok => by rw [hall hok]⟩
      rw [hafter, hstore, Store.overwritten_cons]

/-- A move writes its course and selects nothing. -/
theorem move_wrote (r : e.Ready) (move : op = .start ∨ op = .advance) :
    (op.act.after e).selected = e.selected ∧
      ∃ writes, e.Writes op writes ∧ (op.act.after e).store = e.store.overwritten writes := by
  by_cases can : op = .start → e.isStarted = false
  · obtain ⟨xs, begun, hcourse, hstore, hnone⟩ := course_of_travel r can
    obtain ⟨told, hafter⟩ := after_move r move can
    rw [hafter]
    rcases hway : e.travel true with ⟨halt | step, c⟩
    · rw [hway] at hcourse hstore
      cases hverdict : verdict (α := Step) (.error halt) with
      | ok step => cases halt <;> cases hverdict
      | error err =>
        rw [hverdict] at hcourse
        exact ⟨selected_setOut, _, .halted move hcourse, hstore⟩
    · rw [hway] at hcourse hstore hnone
      obtain rfl := hnone step rfl
      have hlands := lands_of_travel told hcourse hstore
      obtain ⟨ys, hcourse', hwrote⟩ := hlands.wrote
      exact ⟨hlands.selected, _, .arrived move hcourse', hwrote.store⟩
  · obtain ⟨rfl, hstarted⟩ := Classical.not_imp.1 can
    have hstarted : e.isStarted = true := by simpa using hstarted
    obtain ⟨current, hc⟩ := Option.isSome_iff_exists.1 hstarted
    have hact : Operation.act .start = (fun _ => none) <$> start := rfl
    rw [hact, Act.after_map, Act.after_error (start_eq_of_started hc)]
    exact ⟨rfl, _, .halted move (.again rfl hstarted), rfl⟩

/-- Selecting a choice, whatever listeners do: it is taken, or nothing is selected but values may be written. -/
theorem selectChoice_wrote (r : e.Ready) (sound : e.script.Sound) (step choice : Int) :
    let e' := (selectChoice step choice).after e
    (∃ c, e.Takes e' step choice c) ∨
      e'.selected = e.selected ∧
        ∃ writes, e.Writes (.selectChoice step choice) writes ∧ e'.store = e.store.overwritten writes := by
  intro e'
  have heq := selectChoice_eq step choice e
  split at heq
  · exact .inr (Act.after_error heq ▸ ⟨rfl, [], .refused, rfl⟩)
  split at heq
  · exact .inr (Act.after_error heq ▸ ⟨rfl, [], .refused, rfl⟩)
  split at heq
  · exact .inr (Act.after_error heq ▸ ⟨rfl, [], .refused, rfl⟩)
  next c hchoice =>
    split at heq
    · exact .inr (Act.after_ok heq ▸ ⟨rfl, [], .refused, rfl⟩)
    next hnew =>
      have hfits : ∀ x ∈ c.values.entries, e.store.Fits x.1 x.2 :=
        fun x hx => sound.fits_of_writes (.choice hchoice hx) r.schema
      obtain ⟨writes, hprefix, hstore, hall⟩ := setValues_wrote hfits
      have hstays := setValues_stays c.values.entries e
      split at heq
      · next err e₁ hset =>
        rw [Act.after_error hset] at hstays hstore
        have hafter : e' = e₁ := Act.after_error heq
        rw [hafter]
        exact .inr ⟨hstays.selected, writes, .chose hchoice hprefix, hstore⟩
      · next u e₁ hset =>
        rw [Act.after_ok hset] at hstays hstore
        obtain rfl := hall (Act.outcome_ok hset)
        have hafter : e' = _ := (Act.after_congr heq).trans (after_report_of_length_le_one _ (Nat.le_refl 1))
        refine .inl ⟨c, hchoice, by simpa using hnew, ?_, ?_⟩
        · rw [hafter, hstays.selected]
        · rw [hafter]
          exact hstore

/-- **One operation** that does not restore: what it writes, and whether it takes a choice. -/
theorem operation_wrote (r : e.Ready) (sound : e.script.Sound) (h : op.isRestore = false) :
    ∃ writes, e.Writes op writes ∧ e.Wrote (op.act.after e) writes ∧
      ((op.act.after e).selected = e.selected ∨
        ∃ step choice c, op = .selectChoice step choice ∧ e.Takes (op.act.after e) step choice c) := by
  cases op with
  | start =>
    obtain ⟨hselected, writes, hwrites, hstore⟩ := move_wrote r (.inl (Eq.refl Operation.start))
    exact ⟨writes, hwrites, wrote_of_store hstore, .inl hselected⟩
  | advance =>
    obtain ⟨hselected, writes, hwrites, hstore⟩ := move_wrote r (.inr (Eq.refl Operation.advance))
    exact ⟨writes, hwrites, wrote_of_store hstore, .inl hselected⟩
  | back =>
    obtain ⟨x, events, e', told, heffect, hafter, -⟩ := does r .back
    have hkept : e'.store = e.store ∧ e'.selected = e.selected := by
      cases heffect with
      | refused => exact ⟨rfl, rfl⟩
      | halted move way => rcases move with hmove | hmove <;> cases hmove
      | fell move => rcases move with hmove | hmove <;> cases hmove
      | wentBack current link => exact ⟨rfl, rfl⟩
    rw [hafter]
    exact ⟨[], .wentBack, wrote_of_store hkept.1, .inl hkept.2⟩
  | selectChoice step choice =>
    have hact : Operation.act (.selectChoice step choice) = (fun _ => none) <$> Engine.selectChoice step choice := rfl
    rw [hact, Act.after_map]
    rcases selectChoice_wrote r sound step choice with ⟨c, htakes⟩ | ⟨hselected, writes, hwrites, hstore⟩
    · exact ⟨_, .chose htakes.found (List.prefix_refl _), wrote_of_store htakes.store, .inr ⟨_, _, c, rfl, htakes⟩⟩
    · exact ⟨writes, hwrites, wrote_of_store hstore, .inl hselected⟩
  | setValue id v =>
    have hact : Operation.act (.setValue id v) = (fun _ => none) <$> Engine.setValue id v := rfl
    rw [hact, Act.after_map]
    have hselected := (setValue_stays id v e).selected
    cases hconvert : e.store.convert id v with
    | error err =>
      have hstore : ((Engine.setValue id v).after e).store = e.store :=
        (congrArg store (setValue_refused hconvert).2.eq).trans rfl
      exact ⟨[], .rejected hconvert, wrote_of_store hstore, .inl hselected⟩
    | ok w =>
      exact ⟨[(id, w)], .wrote hconvert, wrote_of_store (store_after_setValue hconvert), .inl hselected⟩
  | restore s => cases h

/-! ## What a run writes -/

/-- **The ledger of a run**: what each of its operations writes, one after the other. -/
inductive Ledger : Engine → List Operation → List (Int × Value) → Prop
  | nil {e : Engine} : Ledger e [] []
  | cons {e : Engine} {op : Operation} {ops : List Operation} {writes rest : List (Int × Value)}
      (writes_of : e.Writes op writes) (wrote : e.Wrote (op.act.after e) writes)
      (later : Ledger (op.act.after e) ops rest) : Ledger e (op :: ops) (writes ++ rest)

theorem Ledger.store_eq {ops : List Operation} {writes : List (Int × Value)} (h : e.Ledger ops writes) :
    (e.run ops).store = e.store.overwritten writes := by
  induction h with
  | nil => rfl
  | cons _ wrote _ ih =>
    rw [Store.overwritten_append, ← wrote.store, ← ih]
    rfl

/-- Every run without restoring has a ledger. -/
theorem exists_ledger (r : e.Ready) (sound : e.script.Sound) {ops : List Operation}
    (hops : ∀ op ∈ ops, op.isRestore = false) : ∃ writes, e.Ledger ops writes := by
  induction ops generalizing e with
  | nil => exact ⟨[], .nil⟩
  | cons op rest ih =>
    obtain ⟨hop, hrest⟩ := List.forall_mem_cons.1 hops
    obtain ⟨hk, hr⟩ := after_keeps r op
    obtain ⟨writes, hwrites, hwrote, -⟩ := operation_wrote r sound hop
    obtain ⟨more, hmore⟩ := ih hr (sound.of_freeze_eq hk.script) hrest
    exact ⟨writes ++ more, .cons hwrites hwrote hmore⟩

/-- **Since when a choice is selected.** A choice that is selected after a run was selected before it, or an operation
of the run took it. -/
theorem selected_since (r : e.Ready) (sound : e.script.Sound) {ops : List Operation}
    (hops : ∀ op ∈ ops, op.isRestore = false) {step choice : Int}
    (h : (e.run ops).selected.get? step = some choice) :
    e.selected.get? step = some choice ∨
      ∃ before after c, ops = before ++ .selectChoice step choice :: after ∧
        (e.run before).Takes (e.run (before ++ [.selectChoice step choice])) step choice c := by
  induction ops generalizing e with
  | nil => exact .inl h
  | cons op rest ih =>
    obtain ⟨hop, hrest⟩ := List.forall_mem_cons.1 hops
    obtain ⟨hk, hr⟩ := after_keeps r op
    rcases ih hr (sound.of_freeze_eq hk.script) hrest h with hselected | ⟨before, after, c, rfl, htakes⟩
    · obtain ⟨-, -, -, hkept | ⟨step', choice', c, rfl, htakes⟩⟩ := operation_wrote r sound hop
      · exact .inl (hkept ▸ hselected)
      · rw [htakes.noted, OrderedMap.get?_insert] at hselected
        split at hselected
        · next hstep =>
          obtain rfl := hstep
          obtain rfl := Option.some.inj hselected
          exact .inr ⟨[], rest, c, rfl, htakes⟩
        · exact .inl hselected
    · exact .inr ⟨op :: before, after, c, rfl, htakes⟩

/-- **Whether a selected choice is in effect.** After any run without restoring, whatever the listeners do, selecting a
choice well has one of two results. If the choice was not selected at the step, all its properties hold its values. If
it was, nothing is done: the run took it at some time, when all its properties held its values, and each of them holds
what was written to it last since then, which is the value of the choice if nothing was. -/
theorem choice_in_effect {e₀ : Engine} (fresh : e₀.Fresh) (ops : List Operation)
    (hops : ∀ op ∈ ops, op.isRestore = false) {step choice : Int}
    (h : selectChoice step choice (e₀.run ops) = .ok () e') :
    let e := e₀.run ops
    ∃ c, e.script.choice? step choice = some c ∧
      (e.selected.get? step ≠ some choice ∧ (∀ x ∈ c.values.entries, e'.store.values.get? x.1 = some x.2) ∨
        e.selected.get? step = some choice ∧ e' = e ∧
          ∃ before after writes, ops = before ++ .selectChoice step choice :: after ∧
            let e₁ := e₀.run (before ++ [.selectChoice step choice])
            (e₀.run before).Takes e₁ step choice c ∧ e₁.Ledger after writes ∧
              ∀ x ∈ c.values.entries,
                e'.store.values.get? x.1 = some ((Store.lastWritten writes x.1).getD x.2)) := by
  intro e
  obtain ⟨hk, hr⟩ := run_keeps fresh.ready ops
  have sound := fresh.built.sound
  obtain ⟨-, c, hchoice, ⟨hselected, rfl⟩ | ⟨hnew, e₁, -, hnoted⟩⟩ := selectChoice_ok h
  · refine ⟨c, hchoice, .inr ⟨hselected, rfl, ?_⟩⟩
    rcases selected_since fresh.ready sound hops hselected with hbefore | ⟨before, after, c', hsplit, htakes⟩
    · rw [fresh.selected] at hbefore
      cases hbefore
    obtain ⟨hk₀, -⟩ := run_keeps fresh.ready before
    obtain ⟨hk₁, hr₁⟩ := run_keeps fresh.ready (before ++ [.selectChoice step choice])
    have hsame : c' = c := by
      have hfound := htakes.found
      rw [Script.choice?_of_freeze_eq (hk₀.script.trans hk.script.symm), hchoice] at hfound
      exact (Option.some.inj hfound).symm
    subst hsame
    have hafter : ∀ op ∈ after, op.isRestore = false := fun op hop =>
      hops op (hsplit ▸ List.mem_append_right _ (List.mem_cons_of_mem _ hop))
    obtain ⟨writes, hledger⟩ := exists_ledger hr₁ (sound.of_freeze_eq hk₁.script) hafter
    have hrun : e₀.run ops = (e₀.run (before ++ [.selectChoice step choice])).run after := by
      simp only [hsplit, run, List.foldl_append, List.foldl_cons, List.foldl_nil]
    refine ⟨before, after, writes, hsplit, htakes, hledger, fun x hx => ?_⟩
    rw [hrun, hledger.store_eq, Store.get?_overwritten_eq, htakes.held x hx]
    cases Store.lastWritten writes x.1 <;> rfl
  · refine ⟨c, hchoice, .inl ⟨hnew, ?_⟩⟩
    have hwrote := selectChoice_wrote hr (sound.of_freeze_eq hk.script) step choice
    rw [Act.after_ok h] at hwrote
    rcases hwrote with ⟨c', htakes⟩ | ⟨hkept, -⟩
    · obtain rfl : c' = c := Option.some.inj (htakes.found.symm.trans hchoice)
      exact htakes.held
    · rw [hnoted] at hkept
      exact absurd (hkept ▸ OrderedMap.get?_insert.trans (if_pos rfl)) hnew

/-! ## A turntable -/

/-- Two pages that lead to each other, with a choice on the first one for a note that the page itself makes. -/
def turntable : Script :=
  let page := blankSheet.withSay "Front"
    { id := .int 1, first := true, defaults := .ofList [(1, .text "blank")], rules := [(none, .int 2)] }
  let choice : ChoiceDraft := { id := .int 1, text := "Sign", values := .ofList [(1, .text "signed")] }
  (page.added (page.addChoice (.int 1) choice)).withSay "Back" { id := .int 2, rules := [(none, .int 1)] }

theorem turntable_fresh : (ofScript turntable echoes).Fresh :=
  have page := blankSheet_built.withSay _ _
  ofScript_fresh ((page.added fun _ _ h => page.addChoice h).withSay _ _) echoes

/-- Once around, and the choice is selected again. -/
def aroundOnce : List Operation := [.start, .selectChoice 1 1, .advance, .advance]

/-- Its choice signs. -/
theorem turntable_signs (ops : List Operation) {c : Choice}
    (hc : ((ofScript turntable echoes).run ops).script.choice? 1 1 = some c) :
    (1, .text "signed") ∈ c.values.entries := by
  have hsigns : (turntable.choice? 1 1).all (fun c => decide (c.values.keys = [1]) &&
      Value.sameItems c.values.values [.text "signed"]) = true := by decide +kernel
  rw [Script.choice?_of_freeze_eq (run_keeps turntable_fresh.ready ops).1.script, script_ofScript] at hc
  rw [hc, Option.all_some, Bool.and_eq_true, decide_eq_true_iff] at hsigns
  have hentries : c.values.entries = [(1, .text "signed")] := Value.eq_of_same_pairs hsigns.1 hsigns.2 rfl
  rw [hentries]
  exact List.mem_cons_self

/-- The choice is in effect when it is selected for the first time. Once around, its property holds what was written to
it last. -/
theorem turntable_in_effect :
    let first := (ofScript turntable echoes).run [.start]
    let again := (ofScript turntable echoes).run aroundOnce
    (∃ e', selectChoice 1 1 first = .ok () e' ∧ e'.store.values.get? 1 = some (.text "signed")) ∧
      ∃ before after writes, aroundOnce = before ++ .selectChoice 1 1 :: after ∧
        ((ofScript turntable echoes).run (before ++ [.selectChoice 1 1])).Ledger after writes ∧
          again.store.values.get? 1 = some ((Store.lastWritten writes 1).getD (.text "signed")) := by
  intro first again
  have hfirst : (selectChoice 1 1).outcome first = .ok () := Act.outcome_of_toOption (by decide +kernel)
  have hagain : (selectChoice 1 1).outcome again = .ok () := Act.outcome_of_toOption (by decide +kernel)
  have hnew : first.selected.get? 1 = none := by decide +kernel
  have hnoted : again.selected.get? 1 = some 1 := by decide +kernel
  constructor
  · have hchosen := Act.eq_ok_of_outcome hfirst
    obtain ⟨c, hc, ⟨-, hheld⟩ | ⟨hselected, -⟩⟩ :=
      choice_in_effect turntable_fresh [.start] (by simp [Operation.isRestore]) hchosen
    · exact ⟨_, hchosen, hheld (1, .text "signed") (turntable_signs [.start] hc)⟩
    · rw [hnew] at hselected
      cases hselected
  · obtain ⟨c, hc, ⟨hnot, -⟩ | ⟨-, heq, before, after, writes, hsplit, -, hledger, hheld⟩⟩ :=
      choice_in_effect turntable_fresh aroundOnce (by simp [aroundOnce, Operation.isRestore])
        (Act.eq_ok_of_outcome hagain)
    · exact absurd hnoted hnot
    · rw [heq] at hheld
      have hlast := hheld (1, .text "signed") (turntable_signs aroundOnce hc)
      dsimp only at hlast
      refine ⟨before, after, writes, hsplit, hledger, ?_⟩
      dsimp only [again]
      exact hlast

/-- **The choice is not in effect any more.** Once around, selecting the choice is not refused, but its property holds
what the page says. -/
theorem turntable_overwritten :
    let e := (ofScript turntable echoes).run aroundOnce
    (ofScript turntable echoes).Fresh ∧ (selectChoice 1 1).outcome e = .ok () ∧
      ((selectChoice 1 1).after e).store.value 1 = .text "blank" ∧
      ∃ c, e.script.choice? 1 1 = some c ∧
        ¬∀ x ∈ c.values.entries, ((selectChoice 1 1).after e).store.value x.1 = x.2 := by
  intro e
  have hok : (selectChoice 1 1).outcome e = .ok () := Act.outcome_of_toOption (by decide +kernel)
  have hblank : ((selectChoice 1 1).after e).store.value 1 = .text "blank" :=
    Value.eq_of_same (by decide +kernel) rfl
  obtain ⟨-, c, hc, -⟩ := selectChoice_ok (Act.eq_ok_of_outcome hok)
  refine ⟨turntable_fresh, hok, hblank, c, hc, fun hheld => ?_⟩
  have hsigned := hheld _ (turntable_signs aroundOnce hc)
  rw [hblank] at hsigned
  simp at hsigned

end Engine
end Walkthrough
