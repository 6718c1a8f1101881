/-
# Typed values

Conversion yields values of the type (`holds_of_convert`) and is a projection: what it yields is in the
form of the type already (`convert_convert`). So a store that was only ever written to holds values in
the form of their properties (`Store.Typed`), and those values can be written again without a change.
-/

import Walkthrough.Proofs.OrderedMap
import Walkthrough.Property.Store

namespace Walkthrough
namespace PropertyType

theorem form?_form? {type : PropertyType} {v w : Value} (h : form? type v = some w) :
    form? type w = some w := by
  cases type <;> obtain ⟨x, -, rfl⟩ := Option.map_eq_some_iff.1 h <;> rfl

/-- A value has the form of a type if it is unset or its own form. -/
theorem convert_eq_self_of_form? {type : PropertyType} {v : Value} (h : form? type v = some v) :
    type.convert v = .ok v := by
  cases v with
  | unset => rfl
  | _ => simp only [convert, h]

/-- **Conversion is a projection.** A converted value is converted to itself. -/
theorem convert_convert {type : PropertyType} {v w : Value} (h : type.convert v = .ok w) :
    type.convert w = .ok w := by
  unfold convert at h
  split at h
  · cases h
    rfl
  · split at h
    · next hw =>
      cases h
      exact convert_eq_self_of_form? (form?_form? hw)
    · cases h

/-- **The values of a type**: no value, and those of its own kind. -/
inductive Holds : PropertyType → Value → Prop where
  | unset {type : PropertyType} : Holds type .unset
  | bool (b : Bool) : Holds .bool (.bool b)
  | int (n : Int) : Holds .int (.int n)
  | double (x : Float) : Holds .double (.float x)
  | string (s : String) : Holds .string (.text s)
  | date (d : Calendar.Date) : Holds .date (.date d)
  | dateTime (t : Calendar.DateTime) : Holds .dateTime (.dateTime t)

/-- Conversion yields values of the type. -/
theorem holds_of_convert {type : PropertyType} {v w : Value} (h : type.convert v = .ok w) :
    type.Holds w := by
  unfold convert at h
  split at h
  · cases h
    exact .unset
  · split at h
    · next hw =>
      cases h
      cases type <;>
      · obtain ⟨x, -, rfl⟩ := Option.map_eq_some_iff.1 hw
        constructor
    · cases h

/-- Conversion leaves the values of the type as they are, and no others. -/
theorem convert_eq_self_iff {type : PropertyType} {v : Value} : type.convert v = .ok v ↔ type.Holds v := by
  refine ⟨holds_of_convert, fun h => ?_⟩
  cases h <;> rfl

end PropertyType

namespace Store

variable {s : Store} {id : Int} {v w : Value}

/-- A value has the form of a property of the store. -/
def Fits (s : Store) (id : Int) (v : Value) : Prop := s.convert id v = .ok v

/-- Every value in the store has the form of its property. -/
def Typed (s : Store) : Prop := ∀ id v, s.values.get? id = some v → s.Fits id v

theorem convert_congr {s t : Store} (h : s.schema = t.schema) (id : Int) (v : Value) :
    s.convert id v = t.convert id v := by
  unfold convert property
  rw [h]

theorem Fits.congr {t : Store} (h : s.Fits id v) (hs : t.schema = s.schema) : t.Fits id v :=
  (convert_congr hs id v).trans h

theorem fits_of_convert (h : s.convert id v = .ok w) : s.Fits id w := by
  unfold convert at h
  unfold Fits convert
  cases hp : s.property id with
  | error e => rw [hp] at h; cases h
  | ok p => rw [hp] at h; exact PropertyType.convert_convert h

/-- A value can be converted only for a property of the schema, by its type. -/
theorem property_of_convert (h : s.convert id v = .ok w) :
    ∃ p, s.schema.get? id = some p ∧ p.type.convert v = .ok w := by
  unfold convert property at h
  cases hp : s.schema.get? id with
  | none => rw [hp] at h; cases h
  | some p => rw [hp] at h; exact ⟨p, rfl, h⟩

theorem contains_of_convert (h : s.convert id v = .ok w) : s.contains id = true := by
  obtain ⟨p, hp, -⟩ := property_of_convert h
  exact OrderedMap.contains_iff.2 ⟨p, hp⟩

/-- No value can be converted for a property that is not there. -/
theorem convert_of_unknown (h : s.contains id = false) (v : Value) :
    s.convert id v = .error (.raised (.propertyNotFound (.id id))) := by
  unfold convert property
  cases hp : s.schema.get? id with
  | none => simp only [bind, Except.bind]
  | some p =>
    have hcontains : s.contains id = true := OrderedMap.contains_iff.2 ⟨p, hp⟩
    rw [h] at hcontains
    cases hcontains

/-! ## Writes and their log -/

theorem set_of_convert (h : s.convert id v = .ok w) : s.set id v = (log id w, s.write id w) := by
  rw [set, h]

/-- A value that fits is written as it is, whether it can be logged or not. -/
theorem set_of_fits (h : s.Fits id v) : s.set id v = (log id v, s.write id v) := set_of_convert h

theorem log_of_isLoggable (h : isLoggable id v = true) : log id v = .ok () := if_pos h

theorem log_of_not_isLoggable (h : isLoggable id v = false) : log id v = .error .tooManyDigits :=
  if_neg (by rw [h]; exact Bool.false_ne_true)

theorem log_eq_ok_iff : log id v = .ok () ↔ isLoggable id v = true := by
  unfold log
  split <;> simp [*]

/-- **A write succeeds** if the value has a form in the type of the property that can be logged. -/
theorem set_eq_ok_iff {t : Store} :
    s.set id v = (.ok (), t) ↔ ∃ w, s.convert id v = .ok w ∧ isLoggable id w = true ∧ t = s.write id w := by
  cases hv : s.convert id v with
  | error err => simp [set, hv]
  | ok w =>
    rw [set_of_convert hv, Prod.mk.injEq, log_eq_ok_iff]
    exact ⟨fun h => ⟨w, rfl, h.1, h.2.symm⟩, by rintro ⟨_, ⟨⟩, h, rfl⟩; exact ⟨h, rfl⟩⟩

/-- A property that a value fits has a positive number. -/
theorem Fits.id_pos (h : s.Fits id v) : 0 < id := by
  obtain ⟨p, hp, -⟩ := property_of_convert h
  have hid : p.id = id := s.schema.keyed (id, p) (OrderedMap.get?_eq_some_iff.1 hp)
  exact hid ▸ p.id_pos

@[simp] theorem value_write {other : Int} :
    (s.write id v).value other = if other = id then v else s.value other := by
  unfold value write
  rw [OrderedMap.get?_insert]
  split <;> rfl

theorem typed_empty (schema : Schema) : (empty schema).Typed := fun _ _ h => by cases h

theorem Typed.write (h : s.Typed) (hv : s.Fits id v) : (s.write id v).Typed := by
  intro other x hx
  rw [Store.write, OrderedMap.get?_insert] at hx
  split at hx
  · next he =>
    cases hx
    exact he ▸ hv
  · exact h other x hx

/-- Writing many values that fit. -/
theorem Typed.insertAll {es : List (Int × Value)} (h : s.Typed) (hes : ∀ e ∈ es, s.Fits e.1 e.2) :
    Typed { s with values := s.values.insertAll es } := by
  induction es generalizing s with
  | nil => exact h
  | cons e rest ih =>
    exact ih (h.write (hes e List.mem_cons_self))
      fun f hf => (hes f (List.mem_cons_of_mem _ hf)).congr rfl

/-! ## Writing many values -/

/-- The store after writing many values that have the form of their properties. -/
def overwritten (s : Store) (es : List (Int × Value)) : Store :=
  { s with values := s.values.insertAll es }

theorem overwritten_cons (s : Store) (e : Int × Value) (es : List (Int × Value)) :
    s.overwritten (e :: es) = (s.write e.1 e.2).overwritten es := rfl

theorem overwritten_append (s : Store) (es fs : List (Int × Value)) :
    s.overwritten (es ++ fs) = (s.overwritten es).overwritten fs := by
  unfold overwritten OrderedMap.insertAll
  rw [List.foldl_append]

/-- Properties that are not written keep their values, and stay unwritten if they were. -/
theorem get?_overwritten {s : Store} {es : List (Int × Value)} {id : Int} (h : ∀ e ∈ es, e.1 ≠ id) :
    (s.overwritten es).values.get? id = s.values.get? id := by
  induction es generalizing s with
  | nil => rfl
  | cons e rest ih =>
    rw [overwritten_cons, ih fun f hf => h f (List.mem_cons_of_mem _ hf), write, OrderedMap.get?_insert,
      if_neg (Ne.symm (h e List.mem_cons_self))]

/-! ## Logging many writes -/

/-- Logs many writes, one after the other. -/
def logAll : List (Int × Value) → Except Error Unit
  | [] => .ok ()
  | e :: rest => do
    log e.1 e.2
    logAll rest

/-- The writes that are made of many: those up to the first that cannot be logged, and that one. -/
def made : List (Int × Value) → List (Int × Value)
  | [] => []
  | e :: rest => e :: if isLoggable e.1 e.2 then made rest else []

variable {e : Int × Value} {es : List (Int × Value)}

theorem logAll_cons_of_isLoggable (h : isLoggable e.1 e.2 = true) : logAll (e :: es) = logAll es := by
  rw [logAll, log_of_isLoggable h]
  rfl

theorem logAll_cons_of_not_isLoggable (h : isLoggable e.1 e.2 = false) :
    logAll (e :: es) = .error .tooManyDigits := by
  rw [logAll, log_of_not_isLoggable h]
  rfl

theorem made_cons_of_isLoggable (h : isLoggable e.1 e.2 = true) : made (e :: es) = e :: made es := by
  rw [made, if_pos h]

theorem made_cons_of_not_isLoggable (h : isLoggable e.1 e.2 = false) : made (e :: es) = [e] := by
  rw [made, if_neg (by rw [h]; exact Bool.false_ne_true)]

theorem logAll_eq_ok_iff : logAll es = .ok () ↔ ∀ e ∈ es, isLoggable e.1 e.2 = true := by
  induction es with
  | nil => exact iff_of_true rfl fun _ h => nomatch h
  | cons e rest ih =>
    rw [List.forall_mem_cons, ← ih]
    cases h : isLoggable e.1 e.2 with
    | true => rw [logAll_cons_of_isLoggable h, eq_self_iff_true, true_and]
    | false =>
      rw [logAll_cons_of_not_isLoggable h]
      exact iff_of_false (fun h => nomatch h) fun h => nomatch h.1

/-- Whether all of many writes can be logged. -/
def areLoggable (es : List (Int × Value)) : Bool := es.all fun e => isLoggable e.1 e.2

theorem areLoggable_iff : areLoggable es = true ↔ ∀ e ∈ es, isLoggable e.1 e.2 = true := List.all_eq_true

theorem logAll_of_areLoggable (h : areLoggable es = true) : logAll es = .ok () :=
  logAll_eq_ok_iff.2 (areLoggable_iff.1 h)

/-- Writes that can be logged are all made. -/
theorem made_of_logAll (h : logAll es = .ok ()) : made es = es := by
  rw [logAll_eq_ok_iff] at h
  induction es with
  | nil => rfl
  | cons e rest ih =>
    obtain ⟨he, hrest⟩ := List.forall_mem_cons.1 h
    rw [made_cons_of_isLoggable he, ih hrest]

/-- **Where writes break off**: at the first that cannot be logged, which is the last that is made. -/
theorem made_of_logAll_error {err : Error} (h : logAll es = .error err) :
    err = .tooManyDigits ∧ ∃ before e after, es = before ++ e :: after ∧
      (∀ x ∈ before, isLoggable x.1 x.2 = true) ∧ isLoggable e.1 e.2 = false ∧ made es = before ++ [e] := by
  induction es with
  | nil => cases h
  | cons e rest ih =>
    cases he : isLoggable e.1 e.2 with
    | false =>
      rw [logAll_cons_of_not_isLoggable he] at h
      cases h
      exact ⟨rfl, [], e, rest, rfl, (fun _ hx => nomatch hx), he, made_cons_of_not_isLoggable he⟩
    | true =>
      rw [logAll_cons_of_isLoggable he] at h
      obtain ⟨herr, before, x, after, rfl, hbefore, hx, hmade⟩ := ih h
      refine ⟨herr, e :: before, x, after, rfl, List.forall_mem_cons.2 ⟨he, hbefore⟩, hx, ?_⟩
      rw [made_cons_of_isLoggable he, hmade]
      rfl

theorem logAll_of_not_areLoggable (h : areLoggable es = false) : logAll es = .error .tooManyDigits := by
  cases hlog : logAll es with
  | error err => rw [(made_of_logAll_error hlog).1]
  | ok _ =>
    rw [areLoggable_iff.2 (logAll_eq_ok_iff.1 hlog)] at h
    cases h

theorem made_prefix (es : List (Int × Value)) : made es <+: es := by
  induction es with
  | nil => exact List.prefix_refl _
  | cons e rest ih =>
    cases he : isLoggable e.1 e.2 with
    | true => rw [made_cons_of_isLoggable he]; exact List.prefix_cons_inj e |>.2 ih
    | false => rw [made_cons_of_not_isLoggable he]; exact ⟨rest, rfl⟩

end Store
end Walkthrough
