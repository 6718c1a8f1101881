/-
# The values of properties

A store belongs to a schema. It converts what is written to the type of the property and remembers the
order of first writes; a property that was written is initialized, also if the value was unset.

Every write is logged with the number of the property and its value. An integer with too many digits
cannot be logged: then the write breaks off, but what was written stays.
-/

import Walkthrough.Property.Conversion

namespace Walkthrough

/-- The values of the properties of a schema. -/
structure Store where
  schema : Schema
  values : OrderedMap Int Value

namespace Store

/-- The store in which nothing was written. -/
def empty (schema : Schema) : Store := ⟨schema, .empty⟩

/-- Whether the schema has the property. -/
def contains (s : Store) (id : Int) : Bool := s.schema.contains id

/-- The property with a number. -/
def property (s : Store) (id : Int) : Except Error Property :=
  match s.schema.get? id with
  | some p => .ok p
  | none => .error (.raised (.propertyNotFound (.id id)))

/-- Whether the property was written. -/
def isInitialized (s : Store) (id : Int) : Bool := s.values.contains id

/-- The value of a property, unset if it was not written. -/
def value (s : Store) (id : Int) : Value := (s.values.get? id).getD .unset

/-- The value of a property of the schema. -/
def get (s : Store) (id : Int) : Except Error Value :=
  if s.contains id then .ok (s.value id) else .error (.raised (.propertyNotFound (.id id)))

/-- A value in the form of the type of a property. -/
def convert (s : Store) (id : Int) (v : Value) : Except Error Value := do
  let p ← s.property id
  p.type.convert v

/-- The store after writing a value that has the form of its property. -/
def write (s : Store) (id : Int) (v : Value) : Store := { s with values := s.values.insert id v }

/-- Whether a written value can be logged. -/
def isLoggable (id : Int) (v : Value) : Bool := Value.isShort id && v.isPrintable

/-- Logs a written value. -/
def log (id : Int) (v : Value) : Except Error Unit :=
  if isLoggable id v then .ok () else .error .tooManyDigits

/-- **Writing** a value, converted to the type of the property: it is stored first and logged then. -/
def set (s : Store) (id : Int) (v : Value) : Except Error Unit × Store :=
  match s.convert id v with
  | .error e => (.error e, s)
  | .ok w => (log id w, s.write id w)

/-- The store without values. -/
def reset (s : Store) : Store := empty s.schema

end Store

/-- The schema of properties that a store was given, or the error for a repeated number. -/
def Store.ofProperties (ps : List Property) : Except Error Store :=
  match Schema.ofList? ps with
  | .ok schema => .ok (empty schema)
  | .error id =>
    .error (if Value.isShort id then .failure (.usage (.repeatedProperty id)) else .tooManyDigits)

end Walkthrough
