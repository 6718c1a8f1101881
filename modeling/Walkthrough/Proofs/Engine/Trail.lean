/-
# The trail of a chain

A chain goes from call step to call step along the rules of the script. Its trail are the call steps that it
has passed, each with the chain that came to it. How one call step of a trail leads to the next is `Follows`:
the default values and the result are written, the function is called once, and the next step is the target
of the first rule that holds of what was written so far and of the store that the chain was started over
(`Chain.Leads`). A trail ends in one of three ways (`Ends`):

| the chain comes to | it ends |
| --- | --- |
| a say step | there |
| a call step that it has passed | with the complaint that it goes in a circle |
| a new call step that leads nowhere | inside of it or right after it |

Every chain has a trail (`exists_trail`), and a chain does what its trail says (`run_of_trail`). No call step
is on a trail twice, so there are no more of them than steps, and the number of steps that a chain is allowed
is never what ends it.
-/

import Mathlib.Data.List.Perm.Subperm
import Walkthrough.Proofs.Engine.Errors
import Walkthrough.Proofs.Engine.Simulation

namespace Walkthrough
namespace Chain

variable {write : Bool} {script : Script} {step next : Step} {f : FunctionCall} {c b d : Chain} {s : Store}

/-! ## What a call step adds -/

/-- The function with a key is called at most once, and no other; no step is walked. -/
structure Calls (key : String) (c d : Chain) : Prop where
  walked : d.walked = c.walked
  calls : ∃ made, d.registry.calls = c.registry.calls ++ made ∧ (made.map Call.key).Sublist [key]

theorem Calls.refl (key : String) (c : Chain) : Calls key c c :=
  ⟨rfl, [], (List.append_nil _).symm, List.nil_sublist _⟩

theorem putDefaults_still (write : Bool) (es : List (Int × Value)) (c : Chain) :
    (putDefaults write es c).2.walked = c.walked ∧ (putDefaults write es c).2.registry = c.registry := by
  induction es generalizing c with
  | nil => exact ⟨rfl, rfl⟩
  | cons e rest ih =>
    unfold putDefaults
    split
    · exact ⟨rfl, rfl⟩
    · split
      · exact ih _
      · exact ⟨rfl, rfl⟩

theorem callFunction_calls (write : Bool) (f : FunctionCall) (c : Chain) :
    Calls (nameKey f.name) c (callFunction write f c).2 := by
  unfold callFunction
  split
  · exact .refl _ c
  next arguments _ =>
  have hcall : Calls (nameKey f.name) c { c with registry := (c.registry.call f.name arguments).2 } := by
    refine ⟨rfl, ?_⟩
    unfold Registry.call
    dsimp only
    split
    · exact ⟨[], (List.append_nil _).symm, List.nil_sublist _⟩
    · split
      · exact ⟨_, rfl, List.Sublist.refl _⟩
      · exact ⟨[], (List.append_nil _).symm, List.nil_sublist _⟩
  dsimp only
  split
  · exact hcall
  split
  · exact hcall
  · exact ⟨hcall.walked, hcall.calls⟩

theorem overlay_answer (f : FunctionCall) (c : Chain) : (answer f c).2.overlay = c.overlay := by
  unfold answer
  split
  · rfl
  · dsimp only
    split <;> rfl

/-- A call that succeeds writes a value as its result. -/
theorem overlay_callFunction (h : callFunction write f c = (.ok (), d)) :
    ∃ v, d.overlay = c.overlay.insert f.result v := by
  have hoverlay := overlay_answer f c
  rw [callFunction_eq] at h
  rcases ha : answer f c with ⟨err | v, b⟩
  · rw [ha] at h
    cases h
  · rw [ha] at h hoverlay
    obtain ⟨-, rfl⟩ := Prod.mk.inj h
    exact ⟨v, congrArg (fun m => m.insert f.result v) hoverlay⟩

/-- **A call step** calls its function at most once. -/
theorem runStep_calls (write : Bool) (script : Script) (step : Step) (f : FunctionCall) (c : Chain) :
    Calls (nameKey f.name) c (runStep write script step f c).2 := by
  obtain ⟨hwalked, hregistry⟩ := putDefaults_still write step.defaults.entries c
  have hstill : ∀ {b d : Chain}, (putDefaults write step.defaults.entries c).2 = b →
      Calls (nameKey f.name) b d → Calls (nameKey f.name) c d := by
    rintro b d rfl ⟨hd, made, hmade, hkeys⟩
    exact ⟨hd.trans hwalked, made, by rw [hmade, hregistry], hkeys⟩
  rw [runStep_eq]
  split
  · next h => exact hstill (congrArg Prod.snd h) (.refl _ _)
  · next b h =>
    have hfunction := callFunction_calls write f b
    refine hstill (congrArg Prod.snd h) ?_
    unfold pass
    split
    · exact .refl _ b
    · split
      · next h => rwa [h] at hfunction
      · next h => rwa [h] at hfunction

/-- Steps that were run are steps of the script, each once, so that there are steps left for a chain
that comes to a new one. -/
theorem length_lt_size {done : List Int} (nodup : done.Nodup) (known : done ⊆ script.steps.keys)
    (hstep : script.step? step.id = some step) (new : step.id ∉ done) :
    done.length < script.steps.size := by
  have hmem : step.id ∈ script.steps.keys := OrderedMap.mem_keys_iff.2 ⟨step, hstep⟩
  have hsub : (step.id :: done) ⊆ script.steps.keys := List.cons_subset.2 ⟨hmem, known⟩
  have hlen := (List.subperm_of_subset (List.nodup_cons.2 ⟨new, nodup⟩) hsub).length_le
  rwa [List.length_cons, OrderedMap.keys, List.length_map] at hlen

/-! ## Trails -/

/-- **From one call step of a trail to the next**, in a chain that was started over a store. The default
values and a result are written; what is read is what was written so far, or else what the store holds; and
the next step is the one to which the first rule leads that holds of it. -/
structure Follows (script : Script) (s : Store) (x y : Step × Chain) : Prop where
  written : ∃ f v, x.1.body = .call f ∧
    y.2.overlay = (x.2.overlay.insertAll x.1.defaults.entries).insert f.result v
  reads : ∀ id, y.2.value id = match y.2.overlay.get? id with
    | some v => .ok v
    | none => s.get id
  leads : y.2.Leads script x.1.rules y.1

/-- **The trail of a chain** from a step: the call steps that are passed, each with the chain that comes to
it, and the step and the chain after them. -/
inductive Trail (write : Bool) (script : Script) :
    Step × Chain → List (Step × Chain) → Step × Chain → Prop
  | nil (x : Step × Chain) : Trail write script x [] x
  | cons {x y z : Step × Chain} {path : List (Step × Chain)} (hop : Hop write script x y)
      (rest : Trail write script y path z) : Trail write script x (x :: path) z

/-- The numbers of the steps of a trail. -/
def trailIds (path : List (Step × Chain)) : List Int := path.map fun x => x.1.id

/-- The keys of the functions of steps. -/
def functionKeys (steps : List Step) : List String := steps.flatMap fun step =>
  match step.body with
  | .say _ _ => []
  | .call f => [nameKey f.name]

/-- **How a trail ends**, at a step that may be among those that were met before. `begun` is the call step
that was run without leading on, if there is one. -/
inductive Ends (write : Bool) (script : Script) (met : List Int) (last : Step × Chain) :
    Option Step → Except Halt Step → Chain → Prop
  | arrived (say : last.1.isSay = true) : Ends write script met last none (.ok last.1) last.2
  | returned {f : FunctionCall} (body : last.1.body = .call f) (back : last.1.id ∈ met) :
      Ends write script met last none (.error (.looped (last.2.walked ++ [last.1.id])))
        { last.2 with walked := last.2.walked ++ [last.1.id] }
  | stopped {f : FunctionCall} {halt : Halt} {d : Chain} (body : last.1.body = .call f)
      (new : last.1.id ∉ met)
      (stops : runStep write script last.1 f { last.2 with walked := last.2.walked ++ [last.1.id] } =
        (.error halt, d)) : Ends write script met last (some last.1) (.error halt) d

section Trail

variable {x y z : Step × Chain} {path : List (Step × Chain)}

/-- **What a hop is made of**: the step is entered, nothing that it requires is missing, its function is called
and the result written, and the first rule that holds leads on. -/
theorem Hop.parts (h : Hop write script x y) :
    ∃ f b, x.1.body = .call f ∧ enter write x.1 x.2 = (.ok (), b) ∧ b.lacking x.1 = [] ∧
      callFunction write f b = (.ok (), y.2) ∧ y.2.Leads script x.1.rules y.1 := by
  obtain ⟨f, hbody, hrun⟩ := h
  rw [runStep_eq_enter] at hrun
  rcases hb : enter write x.1 x.2 with ⟨_ | _, b⟩
  · rw [hb] at hrun
    cases hrun
  rw [hb] at hrun
  dsimp only at hrun
  cases hlacking : (b.lacking x.1).isEmpty with
  | false =>
    rw [pass_of_lacking hlacking] at hrun
    cases hrun
  | true =>
    rw [pass_of_filled hlacking] at hrun
    rcases hd : callFunction write f b with ⟨_ | _, d⟩
    · rw [hd] at hrun
      cases hrun
    · rw [hd] at hrun
      obtain ⟨honward, rfl⟩ := Prod.mk.inj hrun
      exact ⟨f, b, hbody, rfl, List.isEmpty_iff.1 hlacking, hd, (onward_eq_ok_iff none).1 honward⟩

theorem Hop.leads (h : Hop write script x y) : y.2.Leads script x.1.rules y.1 := by
  obtain ⟨-, -, -, -, -, -, hleads⟩ := h.parts
  exact hleads

theorem Hop.step?_eq (w : script.WellFormed) (h : Hop write script x y) :
    script.step? y.1.id = some y.1 := by
  obtain ⟨before, rule, after, -, -, -, hnext⟩ := h.leads
  rwa [w.keyed hnext]

theorem Hop.walked (h : Hop write script x y) : y.2.walked = x.2.walked ++ [x.1.id] := by
  obtain ⟨f, -, hrun⟩ := h
  have hcalls := runStep_calls write script x.1 f { x.2 with walked := x.2.walked ++ [x.1.id] }
  rw [hrun] at hcalls
  exact hcalls.walked

theorem Hop.calls (h : Hop write script x y) : ∃ made, y.2.registry.calls = x.2.registry.calls ++ made ∧
    (made.map Call.key).Sublist (functionKeys [x.1]) := by
  obtain ⟨f, hbody, hrun⟩ := h
  have hcalls := runStep_calls write script x.1 f { x.2 with walked := x.2.walked ++ [x.1.id] }
  rw [hrun] at hcalls
  simpa only [functionKeys, List.flatMap_singleton, hbody] using hcalls.calls

/-- What a hop writes, in a chain over a store to whose schema the script belongs. -/
theorem Hop.written (w : script.WellFormed) (hx : script.step? x.1.id = some x.1)
    (schema : x.2.store.schema = script.schema) (h : Hop write script x y) :
    ∃ f v, x.1.body = .call f ∧
      y.2.overlay = (x.2.overlay.insertAll x.1.defaults.entries).insert f.result v := by
  obtain ⟨f, b, hbody, hb, -, hcall, -⟩ := h.parts
  have hoverlay : b.overlay = x.2.overlay.insertAll x.1.defaults.entries :=
    overlay_enter (fun e he => (w.fits hx e he).congr schema) hb
  obtain ⟨v, hv⟩ := overlay_callFunction hcall
  exact ⟨f, v, hbody, by rw [hv, hoverlay]⟩

/-- What a chain does by itself it does side by side with itself. -/
theorem Hop.sim {a : Chain} (hs : Sim a a write write x.2 x.2) (h : Hop write script x y) :
    Sim a a write write y.2 y.2 := by
  obtain ⟨f, hbody, hrun⟩ := h
  have hsim := (hs.runStep_eq (fun _ => rfl) script hbody fun _ _ => rfl).2
  rwa [hrun] at hsim

namespace Trail

theorem step?_eq (w : script.WellFormed) (h : Trail write script x path z)
    (hx : script.step? x.1.id = some x.1) :
    (∀ y ∈ path, script.step? y.1.id = some y.1) ∧ script.step? z.1.id = some z.1 := by
  induction h with
  | nil x => exact ⟨fun _ hy => (nomatch hy), hx⟩
  | cons hop rest ih =>
    obtain ⟨hpath, hlast⟩ := ih (hop.step?_eq w)
    exact ⟨List.forall_mem_cons.2 ⟨hx, hpath⟩, hlast⟩

/-- Only call steps are passed. -/
theorem body (h : Trail write script x path z) : ∀ y ∈ path, ∃ f, y.1.body = .call f := by
  induction h with
  | nil x => exact fun _ hy => nomatch hy
  | cons hop rest ih =>
    obtain ⟨f, hbody, -⟩ := hop
    exact List.forall_mem_cons.2 ⟨⟨f, hbody⟩, ih⟩

theorem walked (h : Trail write script x path z) : z.2.walked = x.2.walked ++ trailIds path := by
  induction h with
  | nil x => exact (List.append_nil _).symm
  | cons hop rest ih => rw [ih, hop.walked, trailIds, trailIds, List.map_cons, List.append_assoc]; rfl

/-- **The functions of a trail** are called at most once for each step, in the order of the trail. -/
theorem calls (h : Trail write script x path z) :
    ∃ made, z.2.registry.calls = x.2.registry.calls ++ made ∧
      (made.map Call.key).Sublist (functionKeys (path.map Prod.fst)) := by
  induction h with
  | nil x => exact ⟨[], (List.append_nil _).symm, List.nil_sublist _⟩
  | cons hop rest ih =>
    obtain ⟨first, hfirst, hkey⟩ := hop.calls
    obtain ⟨made, hmade, hkeys⟩ := ih
    refine ⟨first ++ made, by rw [hmade, hfirst, List.append_assoc], ?_⟩
    rw [List.map_append, List.map_cons, functionKeys, List.flatMap_cons]
    rw [functionKeys, List.flatMap_singleton] at hkey
    exact hkey.append hkeys

/-- **Each call step of a trail leads to the next.** -/
theorem follows {a : Chain} (w : script.WellFormed) (schema : a.store.schema = script.schema)
    (h : Trail write script x path z) (hx : script.step? x.1.id = some x.1)
    (hs : Sim a a write write x.2 x.2) : (path ++ [z]).IsChain (Follows script a.store) := by
  induction h with
  | nil x => exact .singleton x
  | @cons x y z path hop rest ih =>
    have hfollows : Follows script a.store x y :=
      ⟨hop.written w hx (hs.left.schema.trans schema), (hop.sim hs).left.value_eq, hop.leads⟩
    have hrest := ih (hop.step?_eq w) (hop.sim hs)
    cases rest with
    | nil y => exact .cons_cons hfollows (.singleton _)
    | cons hop' rest' => exact .cons_cons hfollows hrest

/-- A trail that passes no step twice passes no more steps than there are. -/
theorem length_le (w : script.WellFormed) (h : Trail write script x path z)
    (hx : script.step? x.1.id = some x.1) (nodup : (trailIds path).Nodup) :
    path.length ≤ script.steps.size ∧ (z.1.id ∉ trailIds path → path.length < script.steps.size) := by
  obtain ⟨hpath, hz⟩ := h.step?_eq w hx
  have hknown : trailIds path ⊆ script.steps.keys := by
    intro id hid
    obtain ⟨y, hy, rfl⟩ := List.mem_map.1 hid
    exact OrderedMap.mem_keys_iff.2 ⟨y.1, hpath y hy⟩
  have hlength : (trailIds path).length = path.length := List.length_map ..
  have hle := (List.subperm_of_subset nodup hknown).length_le
  refine ⟨?_, fun hnew => hlength ▸ length_lt_size nodup hknown hz hnew⟩
  rwa [hlength, OrderedMap.keys, List.length_map] at hle

end Trail

/-! ## How trails end -/

namespace Ends

variable {met met' : List Int} {begun : Option Step} {result : Except Halt Step}

theorem congr (h : Ends write script met z begun result d) (hmet : ∀ id, id ∈ met ↔ id ∈ met') :
    Ends write script met' z begun result d := by
  cases h with
  | arrived say => exact .arrived say
  | returned body back => exact .returned body ((hmet _).1 back)
  | stopped body new stops => exact .stopped body (fun hid => new ((hmet _).2 hid)) stops

/-- The step that was begun is new. -/
theorem not_mem (h : Ends write script met z begun result d) : ∀ step ∈ begun, step.id ∉ met := by
  cases h with
  | arrived | returned => exact fun _ hstep => nomatch hstep
  | stopped body new stops =>
    intro step hstep
    obtain rfl := Option.some.inj hstep
    exact new

/-- Only the step that was begun has its function called, and that once at most. -/
theorem calls (h : Ends write script met z begun result d) :
    ∃ made, d.registry.calls = z.2.registry.calls ++ made ∧
      (made.map Call.key).Sublist (functionKeys begun.toList) := by
  cases h with
  | arrived | returned => exact ⟨[], (List.append_nil _).symm, List.nil_sublist _⟩
  | @stopped f halt d body new stops =>
    have hcalls := runStep_calls write script z.1 f { z.2 with walked := z.2.walked ++ [z.1.id] }
    rw [stops] at hcalls
    simpa only [functionKeys, Option.toList_some, List.flatMap_singleton, body] using hcalls.calls

end Ends

/-! ## Chains and their trails -/

theorem run_of_say {fuel : Nat} {done : List Int} (say : step.isSay = true) :
    run write script fuel done step c = (.ok step, c) := by
  unfold run Step.isSay at *
  cases hbody : step.body with
  | say text choices => rfl
  | call f =>
    rw [hbody] at say
    cases say

theorem run_of_met {fuel : Nat} {done : List Int} (body : step.body = .call f) (met : step.id ∈ done) :
    run write script fuel done step c =
      (.error (.looped (c.walked ++ [step.id])), { c with walked := c.walked ++ [step.id] }) := by
  unfold run
  simp only [body, List.contains_iff_mem.2 met, if_true]

theorem run_of_passed {fuel : Nat} {done : List Int} (body : step.body = .call f) (new : step.id ∉ done)
    (h : runStep write script step f { c with walked := c.walked ++ [step.id] } = (.ok next, d)) :
    run write script (fuel + 1) done step c = run write script fuel (step.id :: done) next d := by
  have hcontains : done.contains step.id = false := by simpa using new
  conv_lhs => unfold run
  simp only [body, hcontains, Bool.false_eq_true, if_false, h]

theorem run_of_stopped {fuel : Nat} {done : List Int} {halt : Halt} (body : step.body = .call f)
    (new : step.id ∉ done)
    (h : runStep write script step f { c with walked := c.walked ++ [step.id] } = (.error halt, d)) :
    run write script (fuel + 1) done step c = (.error halt, d) := by
  have hcontains : done.contains step.id = false := by simpa using new
  unfold run
  simp only [body, hcontains, Bool.false_eq_true, if_false, h]

theorem trailIds_cons (x : Step × Chain) (path : List (Step × Chain)) (done : List Int) :
    (trailIds (x :: path)).reverse ++ done = (trailIds path).reverse ++ x.1.id :: done := by
  simp [trailIds]

/-- **A chain does what its trail says**: it passes the steps of the trail, if none of them was met before. -/
theorem run_of_trail (h : Trail write script x path z) {fuel : Nat} {done : List Int}
    (nodup : ((trailIds path).reverse ++ done).Nodup) (hfuel : path.length ≤ fuel) :
    run write script fuel done x.1 x.2 =
      run write script (fuel - path.length) ((trailIds path).reverse ++ done) z.1 z.2 := by
  induction h generalizing fuel done with
  | nil x => rfl
  | @cons x y z path hop rest ih =>
    obtain ⟨f, hbody, hrun⟩ := hop
    cases fuel with
    | zero => cases hfuel
    | succ fuel =>
      rw [trailIds_cons] at nodup ⊢
      have hnew : x.1.id ∉ done := (List.nodup_cons.1 (List.nodup_append.1 nodup).2.1).1
      rw [run_of_passed hbody hnew hrun, List.length_cons, Nat.add_sub_add_right]
      exact ih nodup (Nat.le_of_succ_le_succ hfuel)

/-- **Every chain has a trail**, which passes each step at most once. The number of steps that a chain is
allowed is never what ends it. -/
theorem exists_trail (write : Bool) (w : script.WellFormed) {fuel : Nat} :
    ∀ {done : List Int} {step : Step} {c : Chain}, done.Nodup → done ⊆ script.steps.keys →
      script.steps.size ≤ fuel + done.length → script.step? step.id = some step →
        ∃ path last begun, Trail write script (step, c) path last ∧
          ((trailIds path).reverse ++ done).Nodup ∧
            Ends write script ((trailIds path).reverse ++ done) last begun
              (run write script fuel done step c).1 (run write script fuel done step c).2 := by
  induction fuel using Nat.strongRecOn with
  | ind fuel ih =>
    intro done step c nodup known hfuel hstep
    cases hbody : step.body with
    | say text choices =>
      have hsay : step.isSay = true := by rw [Step.isSay, hbody]
      rw [run_of_say hsay]
      exact ⟨[], (step, c), none, .nil _, nodup, .arrived hsay⟩
    | call f =>
      by_cases hmet : step.id ∈ done
      · rw [run_of_met hbody hmet]
        exact ⟨[], (step, c), none, .nil _, nodup, .returned hbody hmet⟩
      · have hlength := length_lt_size nodup known hstep hmet
        obtain ⟨fuel, rfl⟩ : ∃ k, fuel = k + 1 := Nat.exists_eq_add_one_of_ne_zero (by omega)
        rcases hrun : runStep write script step f { c with walked := c.walked ++ [step.id] } with
          ⟨halt | next, d⟩
        · rw [run_of_stopped hbody hmet hrun]
          exact ⟨[], (step, c), some step, .nil _, nodup, .stopped hbody hmet hrun⟩
        · have hop : Hop write script (step, c) (next, d) := ⟨f, hbody, hrun⟩
          have hmem : step.id ∈ script.steps.keys := OrderedMap.mem_keys_iff.2 ⟨step, hstep⟩
          obtain ⟨path, last, begun, htrail, hnodup, hends⟩ := ih fuel (Nat.lt_succ_self fuel) (c := d)
            (List.nodup_cons.2 ⟨hmet, nodup⟩) (List.cons_subset.2 ⟨hmem, known⟩)
            (by rw [List.length_cons]; omega) (hop.step?_eq w)
          rw [run_of_passed hbody hmet hrun]
          refine ⟨(step, c) :: path, last, begun, .cons hop htrail, ?_, ?_⟩
          · rwa [trailIds_cons]
          · rwa [trailIds_cons]

end Trail

end Chain
end Walkthrough
