/-
# Errors

Every error says its cause and carries what its message needs; the wording is in
`Walkthrough.Error.Message`. A `ScriptError` is a refusal by this library. A `Failure` is any other way
in which an operation can break off, most of all the failure of a host function or of a listener.

The message of a refusal is written when it is raised. An integer with too many digits cannot be written,
so a refusal that would quote one breaks off instead (`Error.raised`).
-/

import Walkthrough.Value
import Walkthrough.Property.Basic

namespace Walkthrough

/-- What a condition may not contain, by the name that messages give it. -/
inductive Construct where
  | attribute | await | bitAnd | bitOr | bitXor | complement | dict | dictComprehension
  | formattedText | generator | lambda | leftShift | listComprehension | matrixProduct | namedExpression
  | power | rightShift | set | setComprehension | slice | starred | subscript | yield | yieldFrom
deriving DecidableEq, Inhabited

/-- Why the text of a condition is refused. -/
inductive ConditionFault where
  | unclosedHeader
  | badParameters
  | badName (name : String)
  | repeatedName (name : String)
  | badCode (code : String)
  | emptyExpression
  | malformed
  | disallowed (construct : Construct)
  | forbiddenCall
  | keywordArguments
  | unknownName (name : String)
  | unknownProperty (id : Int)
deriving DecidableEq

/-- How the evaluation of a condition can break off. -/
inductive EvaluationFault where
  | wrongType
  | wrongValue
  | zeroDivision
  | overflow
  | lookup
  | missingKey
  | undecodable
  | outOfMemory
  | notBoolean
deriving DecidableEq

/-- Where a script is refused: at a step, or at an option of a step. -/
inductive Place where
  | step (id : Int)
  | choice (step choice : Value)

/-- Why a tag cannot be added. -/
inductive TagFault where
  | badId (tag : String) (id : Value)
  | emptyTag (id : Value)
  | repeatedTag (tag : String)

/-- Why a script, or a part of it, is refused. -/
inductive DefinitionFault where
  | repeatedProperty (id : Int)
  | noProperties
  | emptyStep (id : Value)
  | noResultProperty (id : Value)
  | unknownArgument (step : Value) (argument : String) (property : Int)
  | textAndFunction (id : Value)
  | functionFieldsOnSayStep (id : Value)
  | running
  | badStepId (id : Value)
  | repeatedStep (id : Int)
  | repeatedFirstStep (id first : Int)
  | unknownStep (id : Value)
  | choiceOnFunctionStep (id : Value)
  | badChoiceId (step choice : Value)
  | repeatedChoice (step choice : Value)
  | emptyChoiceText (step choice : Value)
  | emptyChoiceValues (step choice : Value)
  | unknownProperty (place : Place) (property : Int)
  | badValue (type : PropertyType) (value : Value) (place : Place) (property : Int)
  | badTarget (step : Int) (target : Value)
  | emptyFunctionName
  | notCallable (name : String)
  | repeatedFunction (name : String)
  | malformedDocument (source : String)
  | notMapping (source : String)
  | invalidDocument (source : String)
  | badTags (script : String) (cause : TagFault)

/-- Why an operation cannot be done in the state of the engine. -/
inductive StateFault where
  | noSayStep (id : Option Int)
  | alreadyStarted
  | notStarted
  | notCurrent (current step : Int)

/-- What names a property: its number or a tag. -/
inductive PropertyRef where
  | id (id : Int)
  | tag (tag : String)

/-- Why a value is refused. -/
inductive ValueFault where
  | invalid (type : PropertyType) (value : Value)
  | invalidSaved (property : Int) (type : PropertyType) (value : Value)
  | refusedByHost (message : String)
  | invalidChoice (text : String)

/-- The parts of a saved document that messages name. -/
inductive SavedField where
  | step
  | values
  | history
  | choices
deriving DecidableEq

/-- The field of a saved document, as it is written there. -/
def SavedField.name : SavedField → String
  | step => "step_id"
  | values => "variables"
  | history => "history"
  | choices => "choises"

/-- Why a saved document is refused as a document. -/
inductive SavedFault where
  | malformed
  | noStepCode (field : SavedField)
  | noVariableName
  | badVariableName (text : String)
  | repeatedVariable (text : String)
  | badChoiceCode (text : String)
  | branch (step : Int)

/-- Why a tag or a code of a saved document stands for nothing. -/
inductive CodeFault where
  | unknownTag (field : SavedField) (tag : String)
  | badCode (field : SavedField) (text : String)
  | untaggedStep (field : SavedField) (id : Int)
  | untaggedProperty (id : Int)
deriving DecidableEq

/-- Why a history is not a path. -/
inductive HistoryFault where
  | repeated (history : List Int)
  | repeatedCode (text : String)
  | roots (count : Nat)
  | cycle

/-- Why saved state does not fit the script. -/
inductive MismatchFault where
  | unknownStep (id : Int)
  | wrongEnd (current : Int)
  | noCurrentStep
  | noTransition (source target : Int)

/-- A refusal by this library. -/
inductive ScriptError where
  | definition (cause : DefinitionFault)
  | state (cause : StateFault)
  | propertyNotFound (property : PropertyRef)
  | value (cause : ValueFault)
  | badCondition (cause : ConditionFault) (text : String)
  | conditionFailed (cause : EvaluationFault) (text : String)
  | required (ids : List Int) (names : List String)
  | finished (step : Int)
  | looped (chain : List Int)
  | noPreviousStep
  | noFirstStep
  | functionNotRegistered (name : String)
  | unknownTagProperty (tag template : String)
  | saved (cause : SavedFault)
  | code (cause : CodeFault)
  | history (cause : HistoryFault)
  | mismatch (cause : MismatchFault)
  | unknownChoice (step choice : Int)

/-- A value that an operation outside the rules of scripts cannot use. -/
inductive UsageFault where
  | tooManyDigits
  | numeralTooLong (digits : Nat)
  | notANumber (base : Nat) (text : String)
  | notAFraction (text : String)
  | noSuchCharacter
  | repeatedProperty (id : Int)
  | emptyMark
  | unknownEvent (name : String)
  | tag (cause : TagFault)
  | settingsNotMapping (path : String)
  | invalidSettings (path : String)
  | badMonth
  | badDay
  | badYear (year : Nat)
  | badHour
  | badMinute
  | badSecond
  | badOffset (micros : Int)

/-- The stage at which a document in the markup of scripts and settings is refused. -/
inductive MarkupStage where
  | character
  | token
  | nesting
  | composition
  | construction
deriving DecidableEq

/-- Any way to break off that is not a refusal by this library. A failure of the host always has a text. -/
inductive Failure where
  | host (message : String)
  | wrongType
  | overflow
  | usage (cause : UsageFault)
  | missingKey
  | badIndex
  | noScript (name : String)
  | noFile (path : String)
  | invalidRecord
  | markup (stage : MarkupStage)
  | noModule
  | noSuchField
  | undecodable
  | tooDeep
  | isDirectory
  | endOfInput

/-- Why an operation broke off. -/
inductive Error where
  | script (cause : ScriptError)
  | failure (cause : Failure)

/-! ## Raising a refusal -/

/-- Whether a place can be written. -/
def Place.isWritable : Place → Bool
  | step id => Value.isShort id
  | choice s c => s.isPrintable && c.isPrintable

/-- Whether the message about a tag can be written. -/
def TagFault.isWritable : TagFault → Bool
  | badId _ id => id.isPrintable
  | emptyTag id => id.isPrintable
  | repeatedTag _ => true

/-- Whether the message about a definition can be written. -/
def DefinitionFault.isWritable : DefinitionFault → Bool
  | repeatedProperty id => Value.isShort id
  | emptyStep id | noResultProperty id | textAndFunction id | functionFieldsOnSayStep id => id.isPrintable
  | unknownArgument step _ property => step.isPrintable && Value.isShort property
  | badStepId id => id.isPrintable
  | repeatedStep id => Value.isShort id
  | repeatedFirstStep id first => Value.isShort id && Value.isShort first
  | unknownStep id | choiceOnFunctionStep id => id.isPrintable
  | badChoiceId step choice | repeatedChoice step choice | emptyChoiceText step choice
  | emptyChoiceValues step choice => (Place.choice step choice).isWritable
  | unknownProperty place property => place.isWritable && Value.isShort property
  | badValue _ value place property =>
    value.isPrintable && place.isWritable && Value.isShort property
  | badTarget step target => Value.isShort step && target.isPrintable
  | noProperties | running | emptyFunctionName | notCallable _ | repeatedFunction _
  | malformedDocument _ | notMapping _ | invalidDocument _ | badTags _ _ => true

/-- Whether the message about a state can be written. -/
def StateFault.isWritable : StateFault → Bool
  | noSayStep id => id.all Value.isShort
  | notCurrent current step => Value.isShort current && Value.isShort step
  | alreadyStarted | notStarted => true

/-- Whether the message about a value can be written. -/
def ValueFault.isWritable : ValueFault → Bool
  | invalid _ value => value.isPrintable
  | invalidSaved property _ value => Value.isShort property && value.isPrintable
  | refusedByHost _ | invalidChoice _ => true

/-- Whether the message about saved state that does not fit can be written. -/
def MismatchFault.isWritable : MismatchFault → Bool
  | unknownStep id => Value.isShort id
  | wrongEnd current => Value.isShort current
  | noCurrentStep => true
  | noTransition source target => Value.isShort source && Value.isShort target

/-- **Whether the message of a refusal can be written**: no number that it quotes has too many digits. A
number that was read from a numeral, as those of conditions are, never has. -/
def ScriptError.isWritable : ScriptError → Bool
  | definition cause => cause.isWritable
  | state cause => cause.isWritable
  | propertyNotFound (.id id) => Value.isShort id
  | value cause => cause.isWritable
  | finished step => Value.isShort step
  | looped chain => chain.all Value.isShort
  | saved (.branch step) => Value.isShort step
  | code (.untaggedStep _ id) | code (.untaggedProperty id) => Value.isShort id
  | history (.repeated steps) => steps.all Value.isShort
  | mismatch cause => cause.isWritable
  | unknownChoice step choice => Value.isShort step && Value.isShort choice
  | _ => true

namespace Error

/-- Whether an error is a refusal by this library. -/
def isScriptError : Error → Bool
  | script _ => true
  | failure _ => false

/-- What is wrong with a tag or a code, if this is what a refusal is about. -/
def code? : Error → Option CodeFault
  | script (.code cause) => some cause
  | _ => none

theorem eq_of_code? {err : Error} {cause : CodeFault} (h : err.code? = some cause) : err = .script (.code cause) := by
  unfold code? at h
  split at h
  · rw [Option.some.inj h]
  · cases h

/-- The error for a number with too many digits. -/
abbrev tooManyDigits : Error := .failure (.usage .tooManyDigits)

/-- Whether an error is the one for a number with too many digits. -/
def isTooManyDigits : Error → Bool
  | failure (.usage .tooManyDigits) => true
  | _ => false

theorem eq_of_isTooManyDigits {err : Error} (h : err.isTooManyDigits = true) : err = tooManyDigits := by
  unfold isTooManyDigits at h
  split at h
  · rfl
  · cases h

/-- **Raising a refusal**, which breaks off if its message cannot be written. -/
def raised (cause : ScriptError) : Error := if cause.isWritable then .script cause else tooManyDigits

theorem raised_of_isWritable {cause : ScriptError} (h : cause.isWritable = true) :
    raised cause = .script cause := if_pos h

theorem raised_of_not_isWritable {cause : ScriptError} (h : cause.isWritable = false) :
    raised cause = tooManyDigits := if_neg (by rw [h]; exact Bool.false_ne_true)

theorem raised_eq_or (cause : ScriptError) : raised cause = .script cause ∨ raised cause = tooManyDigits := by
  unfold raised
  split
  · exact .inl rfl
  · exact .inr rfl

end Error

/-! ## Outcomes of one step after another -/

theorem ok_of_toOption {ε α : Type} {x : Except ε α} {a : α} (h : x.toOption = some a) : x = .ok a := by
  cases x with
  | error err => cases h
  | ok b => exact congrArg Except.ok (Option.some.inj h)

theorem mapError_eq_error_iff {ε ε' α : Type} {f : ε → ε'} {x : Except ε α} {err' : ε'} :
    x.mapError f = .error err' ↔ ∃ err, x = .error err ∧ f err = err' := by
  constructor
  · intro h
    cases x with
    | error err => exact ⟨err, rfl, Except.error.inj h⟩
    | ok a => cases h
  · rintro ⟨err, rfl, rfl⟩
    rfl

/-- Two steps succeed if the first does, and then the second. -/
theorem bind_eq_ok {ε α β : Type} {x : Except ε α} {f : α → Except ε β} {b : β} (h : (x >>= f) = .ok b) :
    ∃ a, x = .ok a ∧ f a = .ok b := by
  cases x with
  | error err => cases h
  | ok a => exact ⟨a, rfl, h⟩

end Walkthrough
