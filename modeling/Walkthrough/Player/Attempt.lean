/-
# One attempt at a step

An attempt shows the text of the current step, offers its choices, asks for what is still required, and
goes on. The answer `back` to any question ends it at the previous step.
-/

import Walkthrough.Player.Basic

namespace Walkthrough
namespace Player

variable {σ : Type}

/-! ## Choices -/

/-- The refusal of an answer that names no choice. -/
def invalidChoice {α : Type} (text : String) : Except Error α :=
  .error (.script (.value (.invalidChoice text)))

/-- The number that an answer of digits stands for. -/
def answeredNumber (text : String) : Except Error Int :=
  match Number.readInt? text with
  | some n => .ok n
  | none =>
    .error (.failure (.usage (
      if Text.isDecimalText text.toList then .numeralTooLong text.length else .notANumber 10 text)))

/-- The choice whose text an answer is, without regard to case and to blanks around it. -/
def choiceByText? (choices : List Choice) (text : String) : Option Choice :=
  choices.find? fun c => nameKey c.text == Text.lower text

/-- **The choice that an answer names**, by its place in the list or by its text. -/
def answeredChoice (choices : List Choice) (answer : String) : Except Error Choice := do
  let text := Text.strip answer
  let byNumber ←
    if Text.isDigitText text.toList then do
      let n ← answeredNumber text
      pure (if 1 ≤ n then choices[n.toNat - 1]? else none)
    else pure none
  match byNumber.or (choiceByText? choices text) with
  | some c => return c
  | none => invalidChoice text

/-- A value as text, if it can be written. -/
def written (v : Value) : Except Error String :=
  if v.isPrintable then .ok v.toText else .error (.failure (.usage .tooManyDigits))

/-- Shows the choices of a step from number `n` on, the selected one with a star; the result is the
number of that one. -/
def showChoices (c : Console σ) (rich : Bool) (step : Int) (selected : Option Int) :
    Nat → List Choice → Play σ (Option String)
  | _, [] => return none
  | n, choice :: rest => do
    let isSelected := selected == some choice.id
    let text ← read fun e => e.choiceText step choice.id rich
    display c (" " ++ (if isSelected then "*" else " ") ++ toString n ++ ". " ++ text)
    let later ← showChoices c rich step selected (n + 1) rest
    return later.or (if isSelected then some (toString n) else none)

/-- **Offering the choices** of a step. An empty answer keeps what is selected; the result tells whether
the answer went back. -/
def offerChoices (c : Console σ) (rich : Bool) (step : Step) : Play σ Bool := do
  let selected := ((← get).engine.selectedChoice step.id).map Choice.id
  display c ""
  let default ← showChoices c rich step.id selected 1 step.choices
  display c ""
  let answer ← ask c step.id "Choose" default
  if ← goBackOn answer then return true
  let text ← read fun _ => written answer
  if Text.isBlank text then return false
  let choice ← read fun _ => answeredChoice step.choices text
  act (Engine.selectChoice step.id choice.id)
  return false

/-! ## Required properties -/

/-- The required properties that are to be asked for: those that are missing and that no choice of the
step writes. -/
def toAsk (e : Engine) (step : Step) : List Int :=
  let chosen := step.choices.flatMap fun c => c.values.keys
  e.missingRequired.filter fun id => !chosen.contains id

/-- Asks for properties, one after the other; the result tells whether an answer went back. -/
def askProperties (c : Console σ) (step : Int) : List Int → Play σ Bool
  | [] => return false
  | id :: rest => do
    let property ← read fun e => e.store.property id
    let answer ← ask c step property.name none
    if ← goBackOn answer then return true
    if !answer.isBlank then act (Engine.setValue id answer)
    askProperties c step rest

/-! ## The attempt -/

/-- Goes on to the next step; the result tells whether the script is finished. -/
def goOn : Play σ Bool := fun p =>
  match act Engine.advance p with
  | .ok _ p => .ok false p
  | .error (.script (.finished _)) p => .ok true p
  | .error e p => .error e p

/-- **An attempt** at the current step; the result tells whether the script is finished. -/
def attempt (c : Console σ) (rich : Bool) : Play σ Bool := do
  let text ← read fun e => e.stepText none rich
  display c text
  match (← get).engine.currentStep with
  | none => return true
  | some step =>
    if !step.choices.isEmpty then
      if ← offerChoices c rich step then return false
    let asked := toAsk (← get).engine step
    if step.choices.isEmpty && asked.isEmpty && !step.isFinal then
      if ← goBackOn (← ask c step.id "Press Enter to continue" (some "")) then return false
    if ← askProperties c step.id asked then return false
    goOn

end Player
end Walkthrough
