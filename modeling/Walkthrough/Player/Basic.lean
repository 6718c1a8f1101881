/-
# Players

A player walks a user through a script. It shows texts and asks for answers at a console, or takes its
answers from a list that was given for each step beforehand.
-/

import Walkthrough.Engine.Move

namespace Walkthrough

/-- Where texts are shown and answers are typed; `σ` is its state. A default stands for an empty
answer. -/
structure Console (σ : Type) where
  display : String → σ → σ
  ask : String → Option String → EStateM Error σ String

/-- A player: the engine that it drives, the state of its console, and the answers that were given
beforehand by the keys of steps, if any were. `taken` are those it took, oldest first, each with the key of
its step; where none was left it is unset. -/
structure Player (σ : Type) where
  engine : Engine
  console : σ
  prepared : Option (OrderedMap String (List Value)) := none
  taken : List (String × Value) := []

/-- What a player does. -/
abbrev Play (σ : Type) := EStateM Error (Player σ)

namespace Player

variable {σ : Type}

/-- An operation of the engine. -/
def act {α : Type} (a : Act α) : Play σ α := fun p =>
  match a p.engine with
  | .ok x engine => .ok x { p with engine }
  | .error e engine => .error e { p with engine }

/-- What can be read off the engine. -/
def read {α : Type} (f : Engine → Except Error α) : Play σ α := fun p =>
  match f p.engine with
  | .ok x => .ok x p
  | .error e => .error e p

/-- Shows a text. -/
def display (c : Console σ) (text : String) : Play σ Unit :=
  modify fun p => { p with console := c.display text p.console }

/-- Asks at the console. -/
def askConsole (c : Console σ) (prompt : String) (default : Option String) : Play σ Value := fun p =>
  match c.ask prompt default p.console with
  | .ok text console => .ok (.text text) { p with console }
  | .error e console => .error e { p with console }

/-! ## Prepared answers -/

/-- The answers prepared for steps; keys are compared without regard to case and to blanks around
them. -/
def prepare (given : List (Value × List Value)) : OrderedMap String (List Value) :=
  .ofList (given.map fun e => (nameKey e.1.toText, e.2))

/-- The key under which the answers of a step were prepared: its tag, or else its number. -/
def stepKey (e : Engine) (prepared : OrderedMap String (List Value)) (step : Int) : String :=
  match (e.stepTags.tag? step).map Text.lower with
  | some tag => if prepared.contains tag then tag else toString step
  | none => toString step

/-- Takes the next prepared answer of a step. -/
def takePrepared (prepared : OrderedMap String (List Value)) (step : Int) : Play σ Value := do
  let p ← get
  let key := stepKey p.engine prepared step
  match prepared.get? key with
  | some (answer :: rest) => do
    set { p with prepared := some (prepared.insert key rest), taken := p.taken ++ [(key, answer)] }
    return answer
  | _ => do
    set { p with taken := p.taken ++ [(key, Value.unset)] }
    return .unset

/-- Whether an answer says nothing, so that the default stands for it. -/
def isSilent : Value → Bool
  | .unset => true
  | .text s => s.isEmpty
  | _ => false

/-- **Asking** a question at a step: at the console, or for the next prepared answer. -/
def ask (c : Console σ) (step : Int) (prompt : String) (default : Option String) : Play σ Value := do
  match (← get).prepared with
  | none => askConsole c prompt default
  | some prepared => do
    let answer ← takePrepared prepared step
    return if isSilent answer then .text (default.getD "") else answer

/-- The answer that goes back to the previous step. -/
def backCommand : String := "back"

/-- Whether an answer goes back. -/
def isBack : Value → Bool
  | .text s => nameKey s == backCommand
  | _ => false

/-- Goes back if an answer says so, and tells whether it did. -/
def goBackOn (answer : Value) : Play σ Bool := do
  if isBack answer then
    let _ ← act Engine.back
    return true
  else return false

end Player
end Walkthrough
