/-
# Properties

A script keeps what it learns in properties. Each has a positive number, a name for messages, a type
and perhaps a tag under which saved states refer to it.
-/

import Walkthrough.OrderedMap

namespace Walkthrough

/-- The type of the values of a property. -/
inductive PropertyType where
  | bool
  | int
  | double
  | string
  | date
  | dateTime
deriving DecidableEq, Inhabited

namespace PropertyType

/-- All types, in the order of their description. -/
def all : List PropertyType := [.bool, .int, .double, .string, .date, .dateTime]

/-- The word for a type in documents and messages. -/
def name : PropertyType → String
  | bool => "bool"
  | int => "int"
  | double => "double"
  | string => "string"
  | date => "date"
  | dateTime => "datetime"

/-- The type that a word names. -/
def ofName? (s : String) : Option PropertyType := all.find? fun t => t.name == s

theorem ofName?_name (t : PropertyType) : ofName? t.name = some t := by cases t <;> rfl

end PropertyType

/-- A property of a script. -/
structure Property where
  id : Int
  name : String
  type : PropertyType := .string
  tag : Option String := none
  id_pos : 0 < id
  name_ne : name ≠ ""
deriving DecidableEq

/-- The properties of a script by number, in the order of their declaration. -/
structure Schema where
  properties : OrderedMap Int Property
  keyed : ∀ e ∈ properties.entries, e.2.id = e.1

namespace Schema

/-- The schema without properties. -/
def empty : Schema := ⟨.empty, by simp [OrderedMap.empty]⟩

instance : Inhabited Schema := ⟨empty⟩

/-- The property with a number. -/
def get? (s : Schema) (id : Int) : Option Property := s.properties.get? id

/-- Whether a number is the number of a property. -/
def contains (s : Schema) (id : Int) : Bool := s.properties.contains id

/-- All properties, in order. -/
def toList (s : Schema) : List Property := s.properties.values

/-- Declares one more property. -/
def declare (s : Schema) (p : Property) : Schema :=
  ⟨s.properties.insert p.id p, by
    intro e he
    have : ∀ es : List (Int × Property), (∀ x ∈ es, x.2.id = x.1) →
        ∀ x ∈ OrderedMap.put p.id p es, x.2.id = x.1 := by
      intro es
      induction es with
      | nil => simp [OrderedMap.put]
      | cons f rest ih =>
        intro h x hx
        unfold OrderedMap.put at hx
        split at hx
        · next hk =>
          rcases List.mem_cons.1 hx with rfl | hx
          · exact hk.symm
          · exact h x (List.mem_cons_of_mem _ hx)
        · rcases List.mem_cons.1 hx with rfl | hx
          · exact h _ List.mem_cons_self
          · exact ih (fun y hy => h y (List.mem_cons_of_mem _ hy)) x hx
    exact this _ s.keyed e he⟩

/-- The schema of a list of properties, or the number that occurs twice. -/
def ofList? : List Property → Except Int Schema :=
  List.foldlM (fun s p => if s.contains p.id then .error p.id else .ok (s.declare p)) empty

end Schema
end Walkthrough
