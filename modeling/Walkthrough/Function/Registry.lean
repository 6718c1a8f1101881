/-
# Host functions

The program around a script lends it functions. They are registered under a name, which is matched
without regard to case and to blanks around it. A function may depend on the calls made to it before,
so a registry keeps all calls.
-/

import Walkthrough.Error.Basic
import Walkthrough.Text.Lowercase

namespace Walkthrough

/-- The arguments of a call, by name. -/
abbrev Arguments := OrderedMap String Value

/-- A function of the host: the arguments of its earlier calls, oldest first, and those of this one
give a value or an error. -/
structure HostFunction where
  run : List Arguments → Arguments → Except Error Value

/-- A call of a host function: the key of the function, the name it was registered under, and the
arguments. -/
structure Call where
  key : String
  name : String
  arguments : Arguments

/-- A name without regard to case and to blanks around it. -/
def nameKey (name : String) : String := Text.lower (Text.strip name)

@[simp] theorem nameKey_strip (name : String) : nameKey (Text.strip name) = nameKey name := by
  rw [nameKey, Text.strip_strip]
  rfl

/-- Registered functions, with the names they were registered under, and the calls made to them. -/
structure Registry where
  functions : OrderedMap String (String × HostFunction)
  calls : List Call

namespace Registry

/-- The registry without functions. -/
def empty : Registry := ⟨.empty, []⟩

instance : Inhabited Registry := ⟨empty⟩

/-- Registers a function; `none` stands for something that cannot be called. -/
def register (r : Registry) (name : String) (function : Option HostFunction) :
    Except ScriptError Registry :=
  let key := nameKey name
  if key.isEmpty then .error (.definition .emptyFunctionName)
  else match function with
    | none => .error (.definition (.notCallable name))
    | some f =>
      if r.functions.contains key then .error (.definition (.repeatedFunction name))
      else .ok { r with functions := r.functions.insert key (name, f) }

/-- Whether a function is registered under a name. -/
def isRegistered (r : Registry) (name : String) : Bool := r.functions.contains (nameKey name)

/-- The keys of the registered functions in alphabetic order. -/
def names (r : Registry) : List String :=
  r.functions.keys.mergeSort fun a b => decide (a ≤ b)

/-- The arguments of the earlier calls of a function. -/
def history (r : Registry) (key : String) : List Arguments :=
  (r.calls.filter fun c => c.key == key).map Call.arguments

/-- **Calling** the function under a name. A call whose arguments cannot be logged is not made; every
other is noted, whatever comes of it. -/
def call (r : Registry) (name : String) (arguments : Arguments) : Except Error Value × Registry :=
  let key := nameKey name
  match r.functions.get? key with
  | none => (.error (.script (.functionNotRegistered name)), r)
  | some (registered, f) =>
    if arguments.values.all Value.isPrintable then
      (f.run (r.history key) arguments,
        { r with calls := r.calls ++ [⟨key, registered, arguments⟩] })
    else (.error .tooManyDigits, r)

end Registry

/-! ## The functions of the bundled example scripts -/

namespace Function

/-- The warm colours. -/
def warmColors : List String := ["red", "orange", "yellow"]

/-- Whether the argument `color` is a warm colour; a value that counts as false is none. -/
def isWarm : HostFunction where
  run _ arguments :=
    let color := (arguments.get? "color").getD .unset
    let text := if color.isTruthy then color.toText else ""
    .ok (.bool (warmColors.contains (nameKey text)))

/-- The modules that can be named on the command line, with their functions by name. -/
def modules : List (String × List (String × HostFunction)) := [
  ("stepscript.scripts.functions", [("is_warm", isWarm)]),
  ("stepscript.scripts", [])]

end Function
end Walkthrough
