/-
# Chains side by side

Two chains of the same script can differ in what they were started over and in whether they write for good:
looking ahead and going on, or the original of an engine and one that was restored. As long as both have
written the same, walked the same steps and call functions that answer the same on both sides (`Sim`), a
chain is known from its overlay and the store it was started over (`Over`), and the parts of a call step
give the same on both sides, provided that what the step reads is the same.

Functions answer the same if both registries were called the same so far, or if the functions depend on
their arguments only (`Registry.Pure`); what matters is that they do so from now on (`Registry.Even`).
-/

import Mathlib.Logic.Relation
import Walkthrough.Proofs.Engine.Travel

namespace Walkthrough

/-- No function depends on the calls that were made before. -/
def Registry.Pure (r : Registry) : Prop :=
  ∀ key name f, r.functions.get? key = some (name, f) →
    ∀ h h' arguments, f.run h arguments = f.run h' arguments

theorem Registry.Pure.congr {r r' : Registry} (p : r.Pure) (h : r'.functions = r.functions) : r'.Pure := by
  unfold Registry.Pure
  rw [h]
  exact p

namespace Registry

variable {p p' r r' : Registry}

/-- **The same functions, which answer the same from now on**: however they were called before, it does not
show in what they answer to the same calls. -/
structure Even (r r' : Registry) : Prop where
  functions : r'.functions = r.functions
  answers : ∀ key name f, r.functions.get? key = some (name, f) → ∀ later arguments,
    f.run (r'.history key ++ later) arguments = f.run (r.history key ++ later) arguments

theorem Even.refl (r : Registry) : r.Even r := ⟨rfl, fun _ _ _ _ _ _ => rfl⟩

/-- It does not matter how functions were called that depend on their arguments only. -/
theorem Pure.even (pure : r.Pure) (h : r'.functions = r.functions) : r.Even r' :=
  ⟨h, fun key name f hf _ _ => pure key name f hf _ _ _⟩

theorem history_call {key : String} {call : Call} :
    history { r with calls := r.calls ++ [call] } key =
      r.history key ++ if call.key == key then [call.arguments] else [] := by
  unfold history
  rw [List.filter_append, List.map_append, List.filter_singleton]
  cases call.key == key <;> rfl

/-- **A call** gives the same, and from then on the functions answer the same again. -/
theorem Even.call (h : r.Even r') (name : String) (arguments : Arguments) :
    (r'.call name arguments).1 = (r.call name arguments).1 ∧
      (r.call name arguments).2.Even (r'.call name arguments).2 ∧
        ∃ made, (r.call name arguments).2.calls = r.calls ++ made ∧
          (r'.call name arguments).2.calls = r'.calls ++ made := by
  have hfunctions : r'.functions.get? (nameKey name) = r.functions.get? (nameKey name) := by rw [h.functions]
  cases hf : r.functions.get? (nameKey name) with
  | none =>
    rw [hf] at hfunctions
    simp only [Registry.call, hf, hfunctions]
    exact ⟨trivial, h, [], (List.append_nil _).symm, (List.append_nil _).symm⟩
  | some entry =>
    rw [hf] at hfunctions
    simp only [Registry.call, hf, hfunctions]
    split
    swap
    · exact ⟨rfl, h, [], (List.append_nil _).symm, (List.append_nil _).symm⟩
    have hnow := h.answers _ _ _ hf [] arguments
    rw [List.append_nil, List.append_nil] at hnow
    refine ⟨hnow, ⟨h.functions, fun key other g hg later arguments' => ?_⟩, _, rfl, rfl⟩
    rw [history_call, history_call, List.append_assoc, List.append_assoc]
    exact h.answers key other g hg _ _

/-- **Two registries that were called the same** since they were `p` and `p'`. -/
structure Since (p p' r r' : Registry) : Prop where
  even : r.Even r'
  calls : ∃ made, r.calls = p.calls ++ made ∧ r'.calls = p'.calls ++ made

theorem Even.since (h : r.Even r') : Since r r' r r' :=
  ⟨h, [], (List.append_nil _).symm, (List.append_nil _).symm⟩

theorem Since.call (h : Since p p' r r') (name : String) (arguments : Arguments) :
    Since p p' (r.call name arguments).2 (r'.call name arguments).2 := by
  obtain ⟨-, heven, made, hr, hr'⟩ := h.even.call name arguments
  obtain ⟨before, hp, hp'⟩ := h.calls
  refine ⟨heven, before ++ made, ?_, ?_⟩
  · rw [hr, hp, List.append_assoc]
  · rw [hr', hp', List.append_assoc]

end Registry

namespace Chain

section Over

variable {write : Bool} {s : Store} {c : Chain}

/-- A chain over a store: on trial the store is as it was; for good it has what the chain wrote. -/
structure Over (s : Store) (write : Bool) (c : Chain) : Prop where
  schema : c.store.schema = s.schema
  value : ∀ id, c.store.value id =
    if write then (c.overlay.get? id).getD (s.value id) else s.value id

/-- **What a chain reads** is what it wrote, or else what the store held. -/
theorem Over.value_eq (o : c.Over s write) (id : Int) :
    c.value id = match c.overlay.get? id with
      | some v => .ok v
      | none => s.get id := by
  unfold Chain.value
  cases h : c.overlay.get? id with
  | some v => rfl
  | none =>
    have hv := o.value id
    rw [h] at hv
    have hc : c.store.contains id = s.contains id := by
      unfold Store.contains
      rw [o.schema]
    dsimp only
    unfold Store.get
    rw [hc, hv]
    cases write <;> rfl

theorem Over.put (o : c.Over s write) (id : Int) (v : Value) : (put write c id v).Over s write := by
  cases write with
  | false => exact ⟨o.schema, o.value⟩
  | true =>
    refine ⟨o.schema, fun other => ?_⟩
    have ho := o.value other
    change (c.store.write id v).value other = ((c.overlay.insert id v).get? other).getD (s.value other)
    rw [Store.value_write, OrderedMap.get?_insert]
    split
    · rfl
    · exact ho

end Over

variable {write write' : Bool} {s t c d : Chain}

/-- **Two chains that have done the same** since they were the chains `s` and `t`. -/
structure Sim (s t : Chain) (write write' : Bool) (c d : Chain) : Prop where
  left : c.Over s.store write
  right : d.Over t.store write'
  schema : t.store.schema = s.store.schema
  overlay : d.overlay = c.overlay
  walked : d.walked = c.walked
  registry : Registry.Since s.registry t.registry c.registry d.registry

namespace Sim

theorem convert_eq (h : Sim s t write write' c d) (id : Int) (v : Value) :
    d.store.convert id v = c.store.convert id v :=
  Store.convert_congr (h.right.schema.trans (h.schema.trans h.left.schema.symm)) id v

theorem put (h : Sim s t write write' c d) (id : Int) (v : Value) :
    Sim s t write write' (put write c id v) (Chain.put write' d id v) :=
  { h with
    left := h.left.put id v
    right := h.right.put id v
    overlay := congrArg (fun m => m.insert id v) h.overlay }

/-- A step is noted as walked. -/
theorem walk (h : Sim s t write write' c d) (id : Int) :
    Sim s t write write' { c with walked := c.walked ++ [id] } { d with walked := d.walked ++ [id] } :=
  { h with
    left := ⟨h.left.schema, h.left.value⟩
    right := ⟨h.right.schema, h.right.value⟩
    walked := congrArg (· ++ [id]) h.walked }

/-- **Default values** are written on both sides or on none, if they are logged the same. -/
theorem putDefaults (h : Sim s t write write' c d) (es : List (Int × Value))
    (hlog : ∀ e ∈ es, ∀ w, c.store.convert e.1 e.2 = .ok w → logged write' e.1 w = logged write e.1 w) :
    (putDefaults write' es d).1 = (Chain.putDefaults write es c).1 ∧
      Sim s t write write' (Chain.putDefaults write es c).2 (Chain.putDefaults write' es d).2 := by
  induction es generalizing c d with
  | nil => exact ⟨rfl, h⟩
  | cons e rest ih =>
    unfold Chain.putDefaults
    rw [h.convert_eq]
    cases hw : c.store.convert e.1 e.2 with
    | error err => exact ⟨rfl, h⟩
    | ok w =>
      have hput := h.put e.1 w
      dsimp only
      rw [hlog e List.mem_cons_self w hw]
      cases logged write e.1 w with
      | error err => exact ⟨rfl, hput⟩
      | ok _ =>
        refine ih hput fun x hx v hv => hlog x (List.mem_cons_of_mem _ hx) v ?_
        rw [← hv]
        exact Store.convert_congr (hput.left.schema.trans h.left.schema.symm).symm _ _

/-- What both have read the same of. -/
theorem value_eq (h : Sim s t write write' c d) {id : Int}
    (hid : c.overlay.get? id = none → t.store.value id = s.store.value id) : d.value id = c.value id := by
  rw [h.left.value_eq, h.right.value_eq, h.overlay]
  cases ho : c.overlay.get? id with
  | some v => rfl
  | none =>
    have hc : t.store.contains id = s.store.contains id := by
      unfold Store.contains
      rw [h.schema]
    dsimp only
    unfold Store.get
    rw [hc, hid ho]

end Sim

/-! ## What a step reads -/

theorem namedValues_congr {names : List (String × Int)} (h : ∀ x ∈ names, d.value x.2 = c.value x.2) :
    d.namedValues names = c.namedValues names := by
  induction names with
  | nil => rfl
  | cons x rest ih =>
    unfold namedValues
    rw [h x List.mem_cons_self, ih fun y hy => h y (List.mem_cons_of_mem _ hy)]

theorem arguments_congr {f : FunctionCall}
    (h : ∀ x ∈ f.properties.entries, d.value x.2 = c.value x.2) : d.arguments f = c.arguments f := by
  unfold arguments
  rw [namedValues_congr h]

/-- The same rule holds if the conditions read the same. -/
theorem firstTarget_congr {rules : List Rule}
    (h : ∀ rule ∈ rules, ∀ p, rule.predicate = some p →
      ∀ x ∈ p.parameters.entries, d.value x.2 = c.value x.2) :
    d.firstTarget rules = c.firstTarget rules := by
  induction rules with
  | nil => rfl
  | cons rule rest ih =>
    have hrest := ih fun r hr => h r (List.mem_cons_of_mem _ hr)
    unfold firstTarget
    cases hp : rule.predicate with
    | none => rfl
    | some p =>
      dsimp only
      rw [namedValues_congr (h rule List.mem_cons_self p hp), hrest]

/-- **A function** is called with the same arguments and answers the same on both sides. -/
theorem Sim.answer (h : Sim s t write write' c d) {f : FunctionCall} (hf : d.arguments f = c.arguments f) :
    (answer f d).1 = (Chain.answer f c).1 ∧ Sim s t write write' (Chain.answer f c).2 (Chain.answer f d).2 := by
  unfold Chain.answer
  rw [hf]
  cases c.arguments f with
  | error err => exact ⟨rfl, h⟩
  | ok arguments =>
    have hcall := (h.registry.even.call f.name arguments).1
    have hsim : Sim s t write write' { c with registry := (c.registry.call f.name arguments).2 }
        { d with registry := (d.registry.call f.name arguments).2 } :=
      { h with
        left := ⟨h.left.schema, h.left.value⟩
        right := ⟨h.right.schema, h.right.value⟩
        registry := h.registry.call f.name arguments }
    dsimp only
    rw [hcall]
    cases (c.registry.call f.name arguments).1 with
    | error err => exact ⟨rfl, hsim⟩
    | ok v => exact ⟨hsim.convert_eq f.result v, hsim⟩

/-- The answer is written on both sides, if it is logged the same. -/
theorem Sim.callFunction (h : Sim s t write write' c d) {f : FunctionCall} (hf : d.arguments f = c.arguments f)
    (hlog : ∀ w, (Chain.answer f c).1 = .ok w → logged write' f.result w = logged write f.result w) :
    (callFunction write' f d).1 = (Chain.callFunction write f c).1 ∧
      Sim s t write write' (Chain.callFunction write f c).2 (Chain.callFunction write' f d).2 := by
  obtain ⟨hr, hs⟩ := h.answer hf
  rw [callFunction_eq, callFunction_eq]
  rcases hc : Chain.answer f c with ⟨rc, c₁⟩
  rcases hd : Chain.answer f d with ⟨rd, d₁⟩
  rw [hc] at hr hs hlog
  rw [hd] at hr hs
  obtain rfl : rd = rc := hr
  cases rd with
  | error err => exact ⟨rfl, hs⟩
  | ok w => exact ⟨hlog w rfl, hs.put f.result w⟩

/-! ## Walks -/

/-- A chain enters a call step: the step counts as walked, and its default values are written. -/
def enter (write : Bool) (step : Step) (c : Chain) : Except Error Unit × Chain :=
  Chain.putDefaults write step.defaults.entries { c with walked := c.walked ++ [step.id] }

/-- Default values that fit are written as they are, for good up to the first that cannot be logged. -/
theorem putDefaults_true {es : List (Int × Value)} (h : ∀ e ∈ es, c.store.Fits e.1 e.2) :
    putDefaults true es c = (Store.logAll es, { c with
      overlay := c.overlay.insertAll (Store.made es)
      store := c.store.overwritten (Store.made es) }) := by
  induction es generalizing c with
  | nil => rfl
  | cons e rest ih =>
    have he : c.store.convert e.1 e.2 = .ok e.2 := h e List.mem_cons_self
    unfold putDefaults
    rw [he]
    dsimp only
    rw [logged_true]
    cases hlog : Store.isLoggable e.1 e.2 with
    | true =>
      rw [Store.log_of_isLoggable hlog, Store.logAll_cons_of_isLoggable hlog,
        Store.made_cons_of_isLoggable hlog]
      exact ih fun f hf => (h f (List.mem_cons_of_mem _ hf)).congr rfl
    | false =>
      rw [Store.log_of_not_isLoggable hlog, Store.logAll_cons_of_not_isLoggable hlog,
        Store.made_cons_of_not_isLoggable hlog]
      rfl

theorem putDefaults_false {es : List (Int × Value)} (h : ∀ e ∈ es, c.store.Fits e.1 e.2) :
    putDefaults false es c = (.ok (), { c with overlay := c.overlay.insertAll es }) := by
  induction es generalizing c with
  | nil => rfl
  | cons e rest ih =>
    have he : c.store.convert e.1 e.2 = .ok e.2 := h e List.mem_cons_self
    unfold putDefaults
    rw [he]
    exact ih fun f hf => (h f (List.mem_cons_of_mem _ hf)).congr rfl

/-- Default values that fit are all written, if writing them succeeds. -/
theorem overlay_putDefaults {es : List (Int × Value)} (hfits : ∀ e ∈ es, c.store.Fits e.1 e.2)
    (h : putDefaults write es c = (.ok (), d)) : d.overlay = c.overlay.insertAll es := by
  cases write with
  | true =>
    obtain ⟨hlog, rfl⟩ := Prod.mk.inj ((putDefaults_true hfits).symm.trans h)
    rw [Store.made_of_logAll hlog]
  | false =>
    obtain ⟨-, rfl⟩ := Prod.mk.inj ((putDefaults_false hfits).symm.trans h)
    rfl

theorem overlay_enter {step : Step} (hfits : ∀ e ∈ step.defaults.entries, c.store.Fits e.1 e.2)
    (h : enter write step c = (.ok (), d)) : d.overlay = c.overlay.insertAll step.defaults.entries :=
  overlay_putDefaults (c := { c with walked := c.walked ++ [step.id] }) hfits h

/-- The chain that enters a step. -/
theorem Sim.enter (h : Sim s t write write' c d) (step : Step)
    (hlog : ∀ e ∈ step.defaults.entries, ∀ w, c.store.convert e.1 e.2 = .ok w →
      logged write' e.1 w = logged write e.1 w) :
    (enter write' step d).1 = (Chain.enter write step c).1 ∧
      Sim s t write write' (Chain.enter write step c).2 (Chain.enter write' step d).2 :=
  (h.walk step.id).putDefaults step.defaults.entries hlog

theorem runStep_eq_enter (write : Bool) (script : Script) (step : Step) (f : FunctionCall) (c : Chain) :
    runStep write script step f { c with walked := c.walked ++ [step.id] } =
      match enter write step c with
      | (.error e, c) => (.error (.failed e), c)
      | (.ok (), c) => pass write script step f c := runStep_eq write script step f _

/-- One call step of a walk, from the step and the chain before it to the next. -/
def Hop (write : Bool) (script : Script) (x y : Step × Chain) : Prop :=
  ∃ f, x.1.body = .call f ∧
    runStep write script x.1 f { x.2 with walked := x.2.walked ++ [x.1.id] } = (.ok y.1, y.2)

/-- A call step consults a property that the chain did not write: for an argument of its function, or
after the call for one of its conditions. -/
def Consults (write : Bool) (x : Step × Chain) (id : Int) : Prop :=
  ∃ f c, x.1.body = .call f ∧ enter write x.1 x.2 = (.ok (), c) ∧
    ((∃ name, (name, id) ∈ f.properties.entries) ∧ c.overlay.get? id = none ∨
      ∃ d, Chain.callFunction write f c = (.ok (), d) ∧ d.overlay.get? id = none ∧
        ∃ rule ∈ x.1.rules, ∃ p, rule.predicate = some p ∧ id ∈ p.propertyIds)

theorem mem_propertyIds {p : Predicate} {x : String × Int} (h : x ∈ p.parameters.entries) :
    x.2 ∈ p.propertyIds := List.mem_map_of_mem h

section SameMode

variable {script : Script}

theorem Sim.isBlank_eq (h : Sim s t write write c d)
    (blank : ∀ id, (t.store.value id).isBlank = (s.store.value id).isBlank) (id : Int) :
    (d.store.value id).isBlank = (c.store.value id).isBlank := by
  rw [h.left.value, h.right.value, h.overlay]
  cases write with
  | false => exact blank id
  | true =>
    simp only [if_true]
    cases c.overlay.get? id with
    | none => exact blank id
    | some v => rfl

theorem Sim.requiredError_eq (h : Sim s t write write' c d) (ids : List Int) :
    requiredError d.store ids = requiredError c.store ids := by
  unfold requiredError
  rw [h.right.schema, h.left.schema, h.schema]

theorem Sim.missing_eq (h : Sim s t write write c d)
    (blank : ∀ id, (t.store.value id).isBlank = (s.store.value id).isBlank) (step : Step)
    (choice : Option Choice) : missing d.store step choice = missing c.store step choice := by
  unfold missing
  simp only [h.isBlank_eq blank]

theorem Sim.onward_eq (h : Sim s t write write c d)
    (blank : ∀ id, (t.store.value id).isBlank = (s.store.value id).isBlank) (script : Script)
    (choice : Option Choice) {step : Step} (hf : d.firstTarget step.rules = c.firstTarget step.rules) :
    d.onward script step choice = c.onward script step choice := by
  have hinputs : d.blankInputs step.rules = c.blankInputs step.rules := by
    unfold blankInputs
    simp only [h.isBlank_eq blank, h.overlay]
  unfold onward noTarget
  rw [hf, h.missing_eq blank, hinputs, h.requiredError_eq]

/-- **One call step** ends the same on both sides if what it consults is the same. -/
theorem Sim.runStep_eq (h : Sim s t write write c d)
    (blank : ∀ id, (t.store.value id).isBlank = (s.store.value id).isBlank) (script : Script) {step : Step}
    {f : FunctionCall} (hbody : step.body = .call f)
    (reads : ∀ id, Consults write (step, c) id → t.store.value id = s.store.value id) :
    let x := runStep write script step f { c with walked := c.walked ++ [step.id] }
    let y := runStep write script step f { d with walked := d.walked ++ [step.id] }
    y.1 = x.1 ∧ Sim s t write write x.2 y.2 := by
  intro x y
  have hx : x = _ := runStep_eq_enter write script step f c
  have hy : y = _ := runStep_eq_enter write script step f d
  obtain ⟨hr, hs⟩ := h.enter step fun _ _ _ _ => rfl
  rcases hc : Chain.enter write step c with ⟨rc, c₁⟩
  rcases hd : Chain.enter write step d with ⟨rd, d₁⟩
  rw [hc] at hx hr hs
  rw [hd] at hy hr hs
  obtain rfl : rd = rc := hr
  rw [hx, hy]
  cases rd with
  | error err => exact ⟨rfl, hs⟩
  | ok _ =>
    have hlacking : d₁.lacking step = c₁.lacking step := by
      unfold lacking
      rw [hs.missing_eq blank, hs.overlay]
    have hargs : d₁.arguments f = c₁.arguments f := arguments_congr fun x hx =>
      hs.value_eq fun ho => reads _ ⟨f, c₁, hbody, hc, .inl ⟨⟨x.1, hx⟩, ho⟩⟩
    dsimp only
    unfold pass
    rw [hlacking, hs.requiredError_eq]
    split
    · exact ⟨rfl, hs⟩
    obtain ⟨hr', hs'⟩ := hs.callFunction hargs fun _ _ => rfl
    rcases hc' : Chain.callFunction write f c₁ with ⟨rc, c₂⟩
    rcases hd' : Chain.callFunction write f d₁ with ⟨rd, d₂⟩
    rw [hc', hd'] at hr' hs'
    obtain rfl : rd = rc := hr'
    cases rd with
    | error err => exact ⟨rfl, hs'⟩
    | ok _ =>
      refine ⟨hs'.onward_eq blank script none (firstTarget_congr fun rule hrule p hp x hx => ?_), hs'⟩
      exact hs'.value_eq fun ho =>
        reads _ ⟨f, c₁, hbody, hc, .inr ⟨c₂, hc', ho, rule, hrule, p, hp, mem_propertyIds hx⟩⟩

/-- **Walks of the same mode** end the same if the stores they were started over are blank in the same
places and hold the same wherever a call step on the way consults them. -/
theorem Sim.run_eq (blank : ∀ id, (t.store.value id).isBlank = (s.store.value id).isBlank) {fuel : Nat} :
    ∀ {done : List Int} {step : Step} {c d : Chain}, Sim s t write write c d →
      (∀ x, Relation.ReflTransGen (Hop write script) (step, c) x →
        ∀ id, Consults write x id → t.store.value id = s.store.value id) →
      (run write script fuel done step d).1 = (run write script fuel done step c).1 ∧
        Sim s t write write (run write script fuel done step c).2 (run write script fuel done step d).2 := by
  induction fuel with
  | zero =>
    intro done step c d h _
    have hwalk := h.walk step.id
    unfold Chain.run
    cases step.body with
    | say => exact ⟨rfl, h⟩
    | call f =>
      dsimp only at hwalk ⊢
      rw [h.walked] at hwalk ⊢
      split <;> exact ⟨rfl, hwalk⟩
  | succ fuel ih =>
    intro done step c d h reads
    unfold Chain.run
    cases hbody : step.body with
    | say => exact ⟨rfl, h⟩
    | call f =>
      dsimp only
      obtain ⟨hr, hs⟩ := h.runStep_eq blank script hbody (reads _ .refl)
      split
      · exact ⟨by rw [h.walked], h.walk step.id⟩
      · rcases hc : runStep write script step f { c with walked := c.walked ++ [step.id] } with ⟨rc, c₁⟩
        rcases hd : runStep write script step f { d with walked := d.walked ++ [step.id] } with ⟨rd, d₁⟩
        rw [hc, hd] at hr hs
        obtain rfl : rd = rc := hr
        cases rd with
        | error halt => exact ⟨rfl, hs⟩
        | ok next => exact ih hs fun x hx => reads x (.head ⟨f, hbody, hc⟩ hx)

end SameMode

end Chain

namespace Engine

open Chain (Sim Hop)

variable {e e' : Engine}

/-- A new chain over the store of an engine. -/
theorem newChain_over (write : Bool) (walked : List Int) : (e.newChain walked).Over e.store write := by
  refine ⟨rfl, fun id => ?_⟩
  cases write <;> rfl

theorem newChain_sim {write write' : Bool} (walked : List Int) (registry : e.registry.Even e'.registry)
    (schema : e'.store.schema = e.store.schema) :
    Sim (e.newChain walked) (e'.newChain walked) write write' (e.newChain walked) (e'.newChain walked) :=
  ⟨newChain_over write walked, newChain_over write' walked, schema, rfl, rfl, registry.since⟩

/-- A move consults a property that holds what it held before the move: for a condition of the current
step, or at a call step on the way. -/
def Consults (e : Engine) (id : Int) : Prop :=
  (∃ step, e.currentStep = some step ∧
    ∃ rule ∈ step.rules, ∃ p, rule.predicate = some p ∧ id ∈ p.propertyIds) ∨
  ∃ first x, e.departure = .ok first ∧
    Relation.ReflTransGen (Hop true e.script) (first, e.newChain e.current.toList) x ∧
      Chain.Consults true x id

/-- Two engines on one step, with the same choice selected there, set out the same if they are blank in the
same places and no condition of the step tells them apart. -/
theorem departure_congr (current : e'.current = e.current) (first : e'.script.first = e.script.first)
    (target : Chain.target e'.script = Chain.target e.script)
    (choice : ∀ step, e'.selectedChoice step = e.selectedChoice step)
    (registry : e.registry.Even e'.registry) (schema : e'.store.schema = e.store.schema)
    (blank : ∀ id, (e'.store.value id).isBlank = (e.store.value id).isBlank)
    (reads : ∀ id, e.Consults id → e'.store.value id = e.store.value id) : e'.departure = e.departure := by
  unfold departure
  rw [current, first, target]
  cases hc : e.current with
  | none => rfl
  | some current =>
    dsimp only
    cases ht : Chain.target e.script current with
    | error err => rfl
    | ok step =>
      have hstep : e.currentStep = some step := by
        rw [currentStep, hc]
        exact Chain.target_eq_ok_iff.1 ht
      have hsim : Sim (e.newChain [current]) (e'.newChain [current]) true true (e.newChain [current])
          (e'.newChain [current]) := newChain_sim _ registry schema
      have hrules : (e'.newChain [current]).firstTarget step.rules =
          (e.newChain [current]).firstTarget step.rules :=
        Chain.firstTarget_congr fun rule hrule p hp x hx => hsim.value_eq fun _ =>
          reads _ (.inl ⟨step, hstep, rule, hrule, p, hp, Chain.mem_propertyIds hx⟩)
      have hmissing : Chain.missing e'.store step (e.selectedChoice current) =
          Chain.missing e.store step (e.selectedChoice current) := hsim.missing_eq blank step _
      have hrequired : ∀ ids, Chain.requiredError e'.store ids = Chain.requiredError e.store ids :=
        hsim.requiredError_eq
      have honward : (e'.newChain [current]).onward e'.script step (e.selectedChoice current) =
          (e.newChain [current]).onward e.script step (e.selectedChoice current) := by
        rw [← hsim.onward_eq blank e.script (e.selectedChoice current) hrules]
        unfold Chain.onward
        rw [target]
      dsimp only
      rw [choice, hmissing, hrequired, honward]

/-- **Two engines at the same step** of the same script, with the same functions. Their values may differ,
but they are blank in the same places. -/
structure Alike (e e' : Engine) : Prop where
  script : e'.script.freeze = e.script.freeze
  current : e'.current = e.current
  selected : e'.selected = e.selected
  schema : e'.store.schema = e.store.schema
  functions : e'.registry.functions = e.registry.functions
  blank : ∀ id, (e'.store.value id).isBlank = (e.store.value id).isBlank

namespace Alike

theorem sim (h : e.Alike e') (pure : e.registry.Pure) (write : Bool) (walked : List Int) :
    Sim (e.newChain walked) (e'.newChain walked) write write (e.newChain walked) (e'.newChain walked) :=
  newChain_sim walked (pure.even h.functions) h.schema

theorem target_eq (h : e.Alike e') : Chain.target e'.script = Chain.target e.script := by
  change Chain.target e'.script.freeze = Chain.target e.script.freeze
  rw [h.script]

theorem first_eq (h : e.Alike e') : e'.script.first = e.script.first := by
  change e'.script.freeze.first = e.script.freeze.first
  rw [h.script]

theorem selectedChoice_eq (h : e.Alike e') (current : Int) :
    e'.selectedChoice current = e.selectedChoice current := by
  have hchoice : e'.script.freeze.choice? = e.script.freeze.choice? := congrArg Script.choice? h.script
  unfold selectedChoice
  rw [h.selected]
  exact congrArg ((e.selected.get? current).bind ·) (congrFun hchoice current)

theorem run_eq (h : e.Alike e') {write : Bool} {done : List Int} {step : Step} {c : Chain} :
    Chain.run write e'.script (Chain.fuel e'.script) done step c =
      Chain.run write e.script (Chain.fuel e.script) done step c := by
  have hfuel : Chain.fuel e'.script = Chain.fuel e.script := by
    change Chain.fuel e'.script.freeze = Chain.fuel e.script.freeze
    rw [h.script]
  rw [hfuel, ← Chain.run_freeze, h.script, Chain.run_freeze]

/-- They set out the same if no condition of the current step tells them apart. -/
theorem departure_eq (h : e.Alike e') (pure : e.registry.Pure)
    (reads : ∀ id, e.Consults id → e'.store.value id = e.store.value id) :
    e'.departure = e.departure :=
  departure_congr h.current h.first_eq h.target_eq h.selectedChoice_eq (pure.even h.functions) h.schema h.blank
    reads

/-- **They move the same** if they hold the same wherever the move consults them. -/
theorem travel_eq (h : e.Alike e') (pure : e.registry.Pure)
    (reads : ∀ id, e.Consults id → e'.store.value id = e.store.value id) :
    (e'.travel true).1 = (e.travel true).1 := by
  unfold travel
  rw [h.departure_eq pure reads, h.current]
  cases hd : e.departure with
  | error halt => rfl
  | ok step =>
    dsimp only
    rw [h.run_eq]
    exact (Sim.run_eq h.blank (h.sim pure true _) fun x hx id hid => reads id (.inr ⟨step, x, hd, hx, hid⟩)).1

end Alike
end Engine
end Walkthrough
