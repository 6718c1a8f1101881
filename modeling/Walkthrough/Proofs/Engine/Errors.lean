/-
# Errors of values and of functions

Where a step of a script is run, most of what can fail are values: one does not fit its property, a property
is not there or not filled in, a condition breaks off, a function is not registered. Such an error is local
(`Error.isLocal`): it says nothing about the script as a whole or about where the engine stands. Everything
that reads, converts or compares values fails with local errors only, and never because something is not
filled in (`Error.isReading`): that is for the steps to say. A call fails with such an error, or with whatever
the function itself fails with (`Chain.callFunction_error`).
-/

import Walkthrough.Engine.Chain

namespace Walkthrough

/-- Whether an error is about values, or about a function that is not registered. Errors that are no refusals
of this library count as local. -/
def Error.isLocal : Error → Bool
  | script (.value _) => true
  | script (.propertyNotFound _) => true
  | script (.conditionFailed _ _) => true
  | script (.required _ _) => true
  | script (.functionNotRegistered _) => true
  | script _ => false
  | failure _ => true

/-- Whether an error says that properties are not filled in. -/
def Error.isRequired : Error → Bool
  | script (.required _ _) => true
  | _ => false

/-- Whether an error is local, but does not say that properties are not filled in. -/
def Error.isReading (err : Error) : Bool := err.isLocal && !err.isRequired

theorem Error.isLocal_of_isReading {err : Error} (h : err.isReading = true) : err.isLocal = true :=
  (Bool.and_eq_true_iff.1 h).1

theorem Error.isRequired_of_isReading {err : Error} (h : err.isReading = true) : err.isRequired = false := by
  simpa using (Bool.and_eq_true_iff.1 h).2

/-- Raising a refusal whose message cannot be written is no other kind of error. -/
theorem Error.isReading_raised {cause : ScriptError} (h : (Error.script cause).isReading = true) :
    (Error.raised cause).isReading = true := by
  obtain heq | heq := Error.raised_eq_or cause
  · exact heq ▸ h
  · rw [heq]
    rfl

/-- A result that is an error only if the error is of a certain kind. -/
def FailsOnly {α : Type} (p : Error → Prop) (x : Except Error α) : Prop := ∀ err, x = .error err → p err

namespace FailsOnly

variable {α β : Type} {p q : Error → Prop} {x : Except Error α} {err : Error}

theorem ok (a : α) : FailsOnly p (.ok a : Except Error α) := fun _ h => nomatch h

theorem error (h : p err) : FailsOnly p (.error err : Except Error α) := fun _ heq => Except.error.inj heq ▸ h

theorem bind {f : α → Except Error β} (hx : FailsOnly p x) (hf : ∀ a, x = .ok a → FailsOnly p (f a)) :
    FailsOnly p (x >>= f) := by
  cases x with
  | error err => exact .error (hx err rfl)
  | ok a => exact hf a rfl

theorem map (f : α → β) (hx : FailsOnly p x) : FailsOnly p (x.map f) := by
  cases x with
  | error err => exact .error (hx err rfl)
  | ok a => exact .ok (f a)

theorem mono (h : ∀ err, p err → q err) (hx : FailsOnly p x) : FailsOnly q x := fun err herr =>
  h err (hx err herr)

end FailsOnly

/-- A result that is an error only if the error is local. -/
abbrev Local {α : Type} (x : Except Error α) : Prop := FailsOnly (fun err => err.isLocal = true) x

/-- A result of reading, converting or comparing values. -/
abbrev Reads {α : Type} (x : Except Error α) : Prop := FailsOnly (fun err => err.isReading = true) x

theorem FailsOnly.toLocal {α : Type} {x : Except Error α} (h : Reads x) : Local x :=
  h.mono fun _ => Error.isLocal_of_isReading

/-! ## Values -/

theorem PropertyType.convert_reads (type : PropertyType) (v : Value) : Reads (type.convert v) := by
  unfold convert
  split
  · exact .ok _
  · split
    · exact .ok _
    · refine .error ?_
      unfold refusal
      split
      · rfl
      · exact Error.isReading_raised rfl

namespace Store

theorem convert_reads (s : Store) (id : Int) (v : Value) : Reads (s.convert id v) := by
  refine FailsOnly.bind ?_ fun p _ => p.type.convert_reads v
  unfold property
  split
  · exact .ok _
  · exact .error (Error.isReading_raised rfl)

theorem get_reads (s : Store) (id : Int) : Reads (s.get id) := by
  unfold get
  split
  · exact .ok _
  · exact .error (Error.isReading_raised rfl)

theorem log_reads (id : Int) (v : Value) : Reads (log id v) := by
  unfold log
  split
  · exact .ok _
  · exact .error rfl

end Store

/-- A condition that breaks off says so. -/
theorem Predicate.evaluate_reads (p : Predicate) (values : String → Value) :
    Reads ((p.evaluate values).mapError .script) := by
  unfold evaluate
  split
  · exact .ok _
  · exact .error rfl
  · exact .error rfl

/-! ## Chains -/

namespace Chain

variable {write : Bool} {f : FunctionCall} {c : Chain} {err : Error}

theorem namedValues_reads (c : Chain) (names : List (String × Int)) : Reads (c.namedValues names) := by
  induction names with
  | nil => exact .ok _
  | cons name rest ih =>
    refine FailsOnly.bind ?_ fun v _ => ih.bind fun vs _ => .ok _
    unfold value
    split
    · exact .ok _
    · exact c.store.get_reads _

theorem firstTarget_reads (c : Chain) (rules : List Rule) : Reads (c.firstTarget rules) := by
  induction rules with
  | nil => exact .ok _
  | cons rule rest ih =>
    unfold firstTarget
    split
    · exact .ok _
    · next p _ =>
      refine (c.namedValues_reads _).bind fun values _ => ?_
      have hp := p.evaluate_reads (valueOf values)
      split
      · exact .ok _
      · exact ih
      · next err herr =>
        rw [herr] at hp
        split
        · exact ih
        · exact .error (hp _ rfl)

theorem logged_reads (write : Bool) (id : Int) (v : Value) : Reads (logged write id v) := by
  unfold logged
  split
  · exact Store.log_reads id v
  · exact .ok _

theorem putDefaults_reads (write : Bool) (es : List (Int × Value)) (c : Chain) :
    Reads (putDefaults write es c).1 := by
  induction es generalizing c with
  | nil => exact .ok _
  | cons e rest ih =>
    have he := c.store.convert_reads e.1 e.2
    unfold putDefaults
    split
    · next err herr =>
      rw [herr] at he
      exact .error (he err rfl)
    · next w _ =>
      split
      · exact ih _
      · next err herr =>
        have hlog := logged_reads write e.1 w
        rw [herr] at hlog
        exact .error (hlog err rfl)

/-- The function of a call is called, with arguments that can be logged, and fails with an error of its own. -/
def HostFails (c : Chain) (f : FunctionCall) (err : Error) : Prop :=
  ∃ arguments registered g, c.arguments f = .ok arguments ∧ arguments.values.all Value.isPrintable = true ∧
    c.registry.functions.get? (nameKey f.name) = some (registered, g) ∧
      g.run (c.registry.history (nameKey f.name)) arguments = .error err

/-- **A call that fails** does so with an error of its values, or with the error of its function. -/
theorem callFunction_error (h : (callFunction write f c).1 = .error err) :
    err.isReading = true ∨ c.HostFails f err := by
  have harguments : Reads (c.arguments f) := (c.namedValues_reads _).bind fun values _ => .ok _
  unfold callFunction at h
  split at h
  · next herr =>
    cases h
    exact .inl (harguments err herr)
  next arguments hargs =>
  unfold Registry.call at h
  cases hf : c.registry.functions.get? (nameKey f.name) with
  | none =>
    simp only [hf] at h
    cases h
    exact .inl rfl
  | some entry =>
    obtain ⟨registered, g⟩ := entry
    simp only [hf] at h
    split at h
    · next herr =>
      cases h
      split at herr
      · next hprintable => exact .inr ⟨arguments, registered, g, hargs, hprintable, hf, herr⟩
      · cases herr
        exact .inl rfl
    · next v _ =>
      split at h
      · next herr =>
        cases h
        exact .inl (c.store.convert_reads _ _ err herr)
      · next w _ => exact .inl (logged_reads write f.result w err h)

end Chain
end Walkthrough
