/-
# Accepted conditions stay inside

What a term does is what its formula computes, if the term was found to be allowed: it reads no variable that is not
bound, it calls nothing but the functions, and it breaks off only where the formula has no value (`Follows`). Each
step of the evaluation follows the formula, and so do steps one after another (`Follows.bind`), hence whole terms
(`Term.follows_trace`). So a condition that was compiled is true or false, or fails as a condition
(`compile_confined`).
-/

import Walkthrough.Proofs.Condition.Accepted
import Walkthrough.Proofs.Condition.Allowed
import Walkthrough.Proofs.Condition.Trace

namespace Walkthrough
namespace Condition

variable {α β : Type} {names : List String} {env : String → Datum} {scope : String → Option Datum} {P : Event → Prop}

/-! ## Following a computation -/

/-- **An evaluation follows a computation**: all that it does has a property, and its result is that of the
computation. -/
structure Follows (P : Event → Prop) (t : Trace α) (r : Except EvaluationFault α) : Prop where
  events : ∀ e ∈ t.events, P e
  result_eq : t.result = r.mapError .fault

namespace Follows

theorem pure (a : α) : Follows P (Pure.pure a : Trace α) (.ok a) := ⟨List.forall_mem_nil P, rfl⟩

theorem lift (r : Except EvaluationFault α) : Follows P (Trace.lift r) r := ⟨List.forall_mem_nil P, rfl⟩

/-- One thing after another follows one computation after another. -/
theorem bind {t : Trace α} {r : Except EvaluationFault α} {next : α → Trace β}
    {compute : α → Except EvaluationFault β} (h : Follows P t r) (hnext : ∀ a, Follows P (next a) (compute a)) :
    Follows P (t >>= next) (r >>= compute) := by
  obtain ⟨events, result⟩ := t
  obtain ⟨hevents, rfl⟩ := h
  cases r with
  | error cause => exact ⟨hevents, rfl⟩
  | ok a => exact ⟨List.forall_mem_append.2 ⟨hevents, (hnext a).events⟩, (hnext a).result_eq⟩

/-- One thing after another, if the value of the first is known. -/
theorem bind_ok {t : Trace α} {a : α} {next : α → Trace β} {r : Except EvaluationFault β}
    (h : Follows P t (.ok a)) (hnext : Follows P (next a) r) : Follows P (t >>= next) r := by
  obtain ⟨events, result⟩ := t
  obtain ⟨hevents, rfl⟩ := h
  exact ⟨List.forall_mem_append.2 ⟨hevents, hnext.events⟩, hnext.result_eq⟩

/-- What happens first has to have the property, too. -/
theorem emit {e : Event} {t : Trace α} {r : Except EvaluationFault α} (he : P e) (h : Follows P t r) :
    Follows P (Trace.emit e >>= fun _ => t) r :=
  bind_ok ⟨List.forall_mem_singleton.2 he, rfl⟩ h

theorem ite {c : Prop} [Decidable c] {t u : Trace α} {r s : Except EvaluationFault α} (ht : Follows P t r)
    (hu : Follows P u s) : Follows P (if c then t else u) (if c then r else s) := by
  split
  · exact ht
  · exact hu

end Follows

/-! ## What is allowed -/

/-- What an evaluation may do: read variables that are bound, and call functions with arguments by position. -/
def Event.Allowed (names : List String) : Event → Prop
  | .reads s => s ∈ names
  | .calls function _ keywords => (∃ b, function = .builtin b) ∧ keywords = false

/-- The variables are those that are bound, none of which has the name of a function. -/
structure Scoped (names : List String) (env : String → Datum) (scope : String → Option Datum) : Prop where
  bound : ∀ s ∈ names, scope s = some (env s)
  unbound : ∀ s, s ∉ names → scope s = none
  free : ∀ s ∈ names, Builtin.ofName? s = none

/-! ## Identity -/

/-- The variable that a formula is. -/
def Formula.variableName? : Formula → Option String
  | .name s => some s
  | _ => none

theorem identical_eq (f g : Formula) (x y : Datum) : identical f g x y =
    (sameVariable (f.isConstant && g.isConstant && x.literal == y.literal) f.variableName? g.variableName? ||
      (x.isUnique && y.isUnique && x.literal == y.literal)) := by
  unfold identical
  congr 1
  unfold sameVariable
  split
  · rfl
  · next hnames =>
    split
    · next r s hr hs =>
      cases f <;> cases hr
      cases g <;> cases hs
      exact absurd rfl (hnames _ _ rfl)
    · rfl

mutual

theorem Term.Becomes.isConstant_eq : ∀ {t : Term} {f : Formula}, t.Becomes names f → t.isConstant = f.isConstant
  | _, _, .bound _ hdebug => beq_false_of_ne hdebug
  | _, _, .debug _ => rfl
  | _, _, .builtin _ hb => by
    refine beq_false_of_ne ?_
    rintro rfl
    cases hb
  | _, _, .constant _ => rfl
  | _, _, .binary hleft hright => congrArg₂ and hleft.isConstant_eq hright.isConstant_eq
  | _, _, .unary h => congrArg (_ && ·) h.isConstant_eq
  | _, _, .junction _ => rfl
  | _, _, .comparison _ _ => rfl
  | _, _, .conditional _ _ _ => rfl
  | _, _, .call _ _ _ => rfl
  | _, _, .callName _ _ _ => rfl
  | _, _, .tuple h => h.areConstant_eq
  | _, _, .list _ => rfl

theorem BecomeAll.areConstant_eq : ∀ {ts : List Term} {fs : List Formula},
    BecomeAll names ts fs → areConstantTerms ts = areConstant fs
  | _, _, .nil => rfl
  | _, _, .cons h hrest => congrArg₂ and h.isConstant_eq hrest.areConstant_eq

end

theorem BecomeAll.isEmpty_eq {ts : List Term} {fs : List Formula} (h : BecomeAll names ts fs) :
    ts.isEmpty = fs.isEmpty := by
  cases h <;> rfl

namespace Scoped

variable (hscope : Scoped names env scope)

include hscope

theorem variableName?_eq {t : Term} {f : Formula} (h : t.Becomes names f) : t.variableName? = f.variableName? := by
  cases h with
  | bound hs hdebug =>
    rw [Term.variableName?, beq_false_of_ne hdebug, hscope.free _ hs]
    rfl
  | debug hs => rfl
  | builtin hs hb =>
    rw [Term.variableName?, hb, Option.isSome_some, Bool.or_true]
    rfl
  | _ => rfl

theorem compareTerms_eq {t u : Term} {f g : Formula} (ht : t.Becomes names f) (hu : u.Becomes names g)
    (op : CompareOp) (x y : Datum) : compareTerms op t u x y = compareWith op f g x y := by
  have hidentical : identicalTerms t u x y = identical f g x y := by
    rw [identical_eq, identicalTerms, hscope.variableName?_eq ht, hscope.variableName?_eq hu, ht.isConstant_eq,
      hu.isConstant_eq]
  cases op with
  | is => exact congrArg Except.ok hidentical
  | isNot => exact congrArg (fun b => Except.ok !b) hidentical
  | _ => rfl

/-! ## Terms -/

theorem follows_builtin {s : String} {b : Builtin} (hs : s ∉ names) (hb : Builtin.ofName? s = some b) :
    Follows (Event.Allowed names) (lookUp scope s) (.ok (.builtin b)) := by
  have hdebug : ¬(s == debugName) = true := by
    rw [beq_iff_eq]
    rintro rfl
    cases hb
  rw [lookUp, if_neg hdebug, hscope.unbound s hs, hb]
  exact .pure _

end Scoped

mutual

/-- **What an allowed term does** is allowed, and its result is the value of its formula. -/
theorem Term.Becomes.follows (hscope : Scoped names env scope) : ∀ {t : Term} {f : Formula}, t.Becomes names f →
    Follows (Event.Allowed names) (t.trace scope) (f.value env)
  | _, _, .bound hs hdebug => by
    rw [Term.trace, lookUp, if_neg (mt beq_iff_eq.1 hdebug), hscope.bound _ hs]
    exact .emit hs (.pure _)
  | _, _, .debug _ => .pure _
  | _, _, .builtin hs hb => hscope.follows_builtin hs hb
  | _, _, .constant c => .pure _
  | _, _, .binary hleft hright =>
    (hleft.follows hscope).bind fun _ => (hright.follows hscope).bind fun _ => .lift _
  | _, _, .unary h => (h.follows hscope).bind fun _ => .lift _
  | _, _, .junction h => h.follows_junction hscope
  | _, _, .comparison hfirst hrest =>
    (hfirst.follows hscope).bind fun x => BecomeChain.follows_chain hscope hfirst x hrest
  | _, _, .conditional htest hbody horElse =>
    (htest.follows hscope).bind fun _ => .ite (hbody.follows hscope) (horElse.follows hscope)
  | _, _, .call hs hb h =>
    (hscope.follows_builtin hs hb).bind_ok
      ((h.follows_list hscope).bind fun _ => .emit ⟨⟨_, rfl⟩, rfl⟩ (.lift _))
  | _, _, .callName hs hb _ => by
    rw [hscope.free _ hs] at hb
    cases hb
  | _, _, .tuple h => (h.follows_list hscope).bind fun _ => .pure _
  | _, _, .list h => (h.follows_list hscope).bind fun _ => .pure _

theorem BecomeAll.follows_list (hscope : Scoped names env scope) : ∀ {ts : List Term} {fs : List Formula},
    BecomeAll names ts fs → Follows (Event.Allowed names) (listTrace scope ts) (listValue env fs)
  | _, _, .nil => .pure _
  | _, _, .cons h hrest =>
    (h.follows hscope).bind fun _ => (hrest.follows_list hscope).bind fun _ => .pure _

theorem BecomeAll.follows_junction {isOr : Bool} (hscope : Scoped names env scope) :
    ∀ {ts : List Term} {fs : List Formula}, BecomeAll names ts fs →
    Follows (Event.Allowed names) (junctionTrace scope isOr ts) (junctionValue env isOr fs)
  | _, _, .nil => .pure _
  | _, _, .cons h hrest => by
    refine (h.follows hscope).bind fun x => ?_
    rw [hrest.isEmpty_eq]
    exact .ite (.pure x) (hrest.follows_junction hscope)

theorem BecomeChain.follows_chain (hscope : Scoped names env scope) : ∀ {t : Term} {f : Formula}, t.Becomes names f →
    ∀ (x : Datum) {ts : List (CompareOp × Term)} {fs : List (CompareOp × Formula)}, BecomeChain names ts fs →
    Follows (Event.Allowed names) (chainTrace scope t x ts) (chainValue env f x fs)
  | _, _, _, _, _, _, .nil => .pure _
  | _, _, ht, x, _, _, .cons h hrest => by
    refine (h.follows hscope).bind fun y => ?_
    rw [hscope.compareTerms_eq ht h]
    exact (Follows.lift _).bind fun _ => .ite (BecomeChain.follows_chain hscope h y hrest) (.pure _)

end

/-- **An evaluation stays inside**: it reads no variable that is not bound, calls nothing but functions, with arguments
by position, and breaks off neither at a name that is not bound nor at a construct that does not belong here. -/
structure Confined (names : List String) (t : Trace Datum) : Prop where
  reads : ∀ s, .reads s ∈ t.events → s ∈ names
  calls : ∀ function arguments keywords, .calls function arguments keywords ∈ t.events →
    (∃ b, function = .builtin b) ∧ keywords = false
  halts : ∀ halt, t.result = .error halt → ∃ cause, halt = .fault cause

theorem Follows.confined {t : Trace Datum} {r : Except EvaluationFault Datum}
    (h : Follows (Event.Allowed names) t r) : Confined names t := by
  refine ⟨fun s hs => h.events _ hs, fun function arguments keywords hcall => h.events _ hcall, fun halt hhalt => ?_⟩
  rw [h.result_eq] at hhalt
  cases r with
  | ok x => cases hhalt
  | error cause =>
    cases hhalt
    exact ⟨cause, rfl⟩

end Condition

namespace Predicate

open Condition

variable {text : String} {p : Predicate}

/-- The variables of a condition: the names of its header. -/
def scope (p : Predicate) (values : String → Value) (s : String) : Option Datum :=
  if p.parameters.contains s then some (.ofValue (values s)) else none

/-- What a value, or its lack, says about a condition. -/
def verdict (text : String) : Except EvaluationFault Datum → Except ScriptError Bool
  | .ok (.bool b) => .ok b
  | .ok _ => .error (.conditionFailed .notBoolean text)
  | .error cause => .error (.conditionFailed cause text)

theorem evaluate_eq_verdict (p : Predicate) (values : String → Value) :
    p.evaluate values = verdict p.text (p.formula.value (p.env values)) := rfl

theorem verdict_eq_ok_iff {r : Except EvaluationFault Datum} {b : Bool} :
    verdict text r = .ok b ↔ r = .ok (.bool b) := by
  constructor
  · intro h
    unfold verdict at h
    split at h
    · cases h
      rfl
    · cases h
    · cases h
  · rintro rfl
    rfl

theorem verdict_cases (text : String) (r : Except EvaluationFault Datum) :
    (∃ b, verdict text r = .ok b) ∨ ∃ cause, verdict text r = .error (.conditionFailed cause text) := by
  unfold verdict
  split
  · exact .inl ⟨_, rfl⟩
  · exact .inr ⟨_, rfl⟩
  · exact .inr ⟨_, rfl⟩

theorem scope_of_free (hfree : ∀ s ∈ p.parameters.keys, Builtin.ofName? s = none) (values : String → Value) :
    Scoped p.parameters.keys (p.env values) (p.scope values) where
  bound s hs := by
    have hcontains : p.parameters.contains s = true := OrderedMap.contains_iff.2 (OrderedMap.mem_keys_iff.1 hs)
    rw [scope, env, if_pos hcontains, if_pos hcontains]
  unbound s hs := if_neg fun hcontains => hs (OrderedMap.mem_keys_iff.2 (OrderedMap.contains_iff.1 hcontains))
  free := hfree

/-- **An accepted condition stays inside**: its expression is made of allowed terms, and whatever the values, its
evaluation reads and calls nothing else. The condition is true or false exactly if its expression is, and fails as
a condition otherwise. -/
theorem compile_confined (h : compile text none = .ok p) : ∃ headed t, split text = .ok headed ∧
    p.parameters = headed.bindings ∧ Term.ofText? (plainQuotes headed.body) = some t ∧
    t.Becomes headed.bindings.keys p.formula ∧ ∀ values : String → Value,
      Confined headed.bindings.keys (t.trace (p.scope values)) ∧
      (∀ b, p.evaluate values = .ok b ↔ (t.trace (p.scope values)).result = .ok (.bool b)) ∧
      ((∃ b, p.evaluate values = .ok b) ∨ ∃ cause, p.evaluate values = .error (.conditionFailed cause p.text)) := by
  obtain ⟨headed, t, f, hsplit, -, hterm, hbecomes, rfl⟩ := compile_eq_ok_iff.1 h
  refine ⟨headed, t, hsplit, rfl, hterm, hbecomes, fun values => ?_⟩
  have hfollows := hbecomes.follows (scope_of_free (p := ⟨text, headed.bindings, f⟩) (free_of_split hsplit) values)
  refine ⟨hfollows.confined, fun b => ?_, verdict_cases text _⟩
  rw [evaluate_eq_verdict, verdict_eq_ok_iff, hfollows.result_eq]
  cases f.value (env ⟨text, headed.bindings, f⟩ values) with
  | ok x => simp [Except.mapError]
  | error cause => simp [Except.mapError]

/-- A condition with a call, a chain of comparisons and a choice between expressions. -/
theorem compile_confined_chain :
    let text := "(a=1) 0 < abs(a) <= 9 if a else a in (1, [a])"
    ∃ p, compile text none = .ok p ∧ ∃ headed t, split text = .ok headed ∧ p.parameters = headed.bindings ∧
      Term.ofText? (plainQuotes headed.body) = some t ∧ t.Becomes headed.bindings.keys p.formula ∧
      ∀ values : String → Value,
        Confined headed.bindings.keys (t.trace (p.scope values)) ∧
        (∀ b, p.evaluate values = .ok b ↔ (t.trace (p.scope values)).result = .ok (.bool b)) ∧
        ((∃ b, p.evaluate values = .ok b) ∨
          ∃ cause, p.evaluate values = .error (.conditionFailed cause p.text)) := by
  intro text
  have hsome : (compile text none).toOption.isSome = true := by decide +kernel
  obtain ⟨p, hp⟩ := Option.isSome_iff_exists.1 hsome
  exact ⟨p, ok_of_toOption hp, compile_confined (ok_of_toOption hp)⟩

end Predicate
end Walkthrough
