/-
# The wording of errors

One function for each type of causes. Where a message would go on with the words of a foreign reader or
evaluator it ends before them.
-/

import Walkthrough.Error.Basic

namespace Walkthrough

open Text (joined quoted)

/-- The name of a construct. -/
def Construct.name : Construct → String
  | .attribute => "Attribute"
  | await => "Await"
  | bitAnd => "BitAnd"
  | bitOr => "BitOr"
  | bitXor => "BitXor"
  | complement => "Invert"
  | dict => "Dict"
  | dictComprehension => "DictComp"
  | formattedText => "JoinedStr"
  | generator => "GeneratorExp"
  | lambda => "Lambda"
  | leftShift => "LShift"
  | listComprehension => "ListComp"
  | matrixProduct => "MatMult"
  | namedExpression => "NamedExpr"
  | power => "Pow"
  | rightShift => "RShift"
  | set => "Set"
  | setComprehension => "SetComp"
  | slice => "Slice"
  | starred => "Starred"
  | subscript => "Subscript"
  | yield => "Yield"
  | yieldFrom => "YieldFrom"

/-- Why a condition is refused, in words. -/
def ConditionFault.message : ConditionFault → String
  | unclosedHeader => "second bracket not found"
  | badParameters => "bad parameters"
  | badName name => "bad parameter name [" ++ name ++ "]"
  | repeatedName name => "parameter duplicated [" ++ name ++ "]"
  | badCode code => "bad parameter code [" ++ code ++ "]"
  | emptyExpression => "empty expression"
  | malformed => "syntax error"
  | disallowed construct => "disallowed construct " ++ construct.name
  | forbiddenCall => "only calls to allowed builtins are permitted"
  | keywordArguments => "keyword arguments are not permitted"
  | unknownName name => "unknown name [" ++ name ++ "]"
  | unknownProperty id => "unknown property code [" ++ toString id ++ "]"

/-- The kind of a failed evaluation. -/
def EvaluationFault.message : EvaluationFault → String
  | wrongType => "TypeError"
  | wrongValue => "ValueError"
  | zeroDivision => "ZeroDivisionError"
  | overflow => "OverflowError"
  | lookup => "LookupError"
  | missingKey => "KeyError"
  | undecodable => "UnicodeDecodeError"
  | outOfMemory => "MemoryError"
  | notBoolean => "result must be boolean type"

/-- A condition fault with the whole text of the condition; a foreign explanation is left out. -/
def formulaMessage (cause : String) (foreign : Bool) (text : String) : String :=
  "Formula error: " ++ cause ++ (if foreign then "" else " (" ++ text ++ ")")

/-- A place in a script. -/
def Place.message : Place → String
  | step id => "step " ++ toString id
  | choice s c => "step " ++ s.toText ++ ", choice " ++ c.toText

/-- What is said of a number with too many digits. -/
def digitsMessage : String :=
  "Exceeds the limit (4300 digits) for integer string conversion; " ++
    "use sys.set_int_max_str_digits() to increase the limit"

/-- Why a tag is refused, in words; the words themselves can be what fails. -/
def TagFault.message (cause : TagFault) : String :=
  if !cause.isWritable then digitsMessage
  else match cause with
  | .badId tag id => "Incorrect id for tag " ++ quoted tag ++ ": " ++ id.toText
  | .emptyTag id => "Empty tag for id " ++ id.toText
  | .repeatedTag tag => "Tag duplicated: " ++ tag

/-- The complaint about a value that does not fit a type. -/
def invalidValueMessage (type : PropertyType) (value : Value) : String :=
  "Invalid " ++ type.name ++ " value: " ++ value.literal

/-- Why a value is refused, in words. -/
def ValueFault.message : ValueFault → String
  | invalid type value => invalidValueMessage type value
  | invalidSaved property type value =>
    "Property " ++ toString property ++ ": " ++ invalidValueMessage type value
  | refusedByHost message => message
  | invalidChoice text => "Invalid choice: " ++ text

/-- Why a script is refused, in words. -/
def DefinitionFault.message : DefinitionFault → String
  | repeatedProperty id => "Property duplicated: " ++ toString id
  | noProperties => "Script has no properties"
  | emptyStep id => "Empty step text and function: " ++ id.toText
  | noResultProperty id => "Function result property not defined: " ++ id.toText
  | unknownArgument step argument property =>
    "Property not found: step " ++ step.toText ++ ", argument " ++ argument ++ ", property " ++
      toString property
  | textAndFunction id => "Set text or function, but not both: " ++ id.toText
  | functionFieldsOnSayStep id => "Function fields set on a say step: " ++ id.toText
  | running => "Script is already running and cannot be changed"
  | badStepId id => "Incorrect step id: " ++ id.toText
  | repeatedStep id => "Step duplicated: " ++ toString id
  | repeatedFirstStep id first =>
    "First step duplicated: " ++ toString id ++ " (first is " ++ toString first ++ ")"
  | unknownStep id => "Step not found: " ++ id.toText
  | choiceOnFunctionStep id => "Choices are only allowed on say steps: step " ++ id.toText
  | badChoiceId step choice => "Incorrect choice id: " ++ (Place.choice step choice).message
  | repeatedChoice step choice => "Choice id duplicated: " ++ (Place.choice step choice).message
  | emptyChoiceText step choice => "Choice text is empty: " ++ (Place.choice step choice).message
  | emptyChoiceValues step choice => "Empty values: " ++ (Place.choice step choice).message
  | unknownProperty place property =>
    "Property not found: " ++ place.message ++ ", property " ++ toString property
  | badValue type value place property =>
    invalidValueMessage type value ++ ": " ++ place.message ++ ", property " ++
      toString property
  | badTarget step target =>
    "Incorrect condition target: step " ++ toString step ++ ", target " ++ target.toText
  | emptyFunctionName => "Function name is empty"
  | notCallable name => "Function " ++ name ++ " is not callable"
  | repeatedFunction name => "Function already registered: " ++ name
  | malformedDocument source => "Invalid YAML in " ++ source
  | notMapping source => "Script document must be a mapping: " ++ source
  | invalidDocument source => "Invalid script " ++ source
  | badTags script cause => "Invalid tags in script '" ++ script ++ "': " ++ cause.message

/-- Why an operation cannot be done now, in words. -/
def StateFault.message : StateFault → String
  | noSayStep id => "No say step to render: " ++ (id.map toString).getD "None"
  | alreadyStarted => "Script already started"
  | notStarted => "Script not started"
  | notCurrent current step =>
    "Choice must target the current step " ++ toString current ++ ", not " ++ toString step

/-- What names a property. -/
def PropertyRef.message : PropertyRef → String
  | id n => toString n
  | tag s => s

/-- Why a saved document is refused, in words. -/
def SavedFault.message : SavedFault → String
  | malformed => "Invalid saved state"
  | noStepCode field => "Step code not set (" ++ field.name ++ ")"
  | noVariableName => "Variable name not set (variables)"
  | badVariableName text => "Incorrect variable name: " ++ text
  | repeatedVariable text => "Variable duplicated: " ++ text
  | badChoiceCode text => "Incorrect choice code: " ++ text
  | branch step => "History branches after step " ++ toString step

/-- Why a code stands for nothing, in words. -/
def CodeFault.message : CodeFault → String
  | unknownTag field tag => "Unknown step tag in " ++ field.name ++ ": " ++ tag
  | badCode field text => "Incorrect step code in " ++ field.name ++ ": " ++ text
  | untaggedStep field id => "Step " ++ toString id ++ " has no tag (" ++ field.name ++ ")"
  | untaggedProperty id => "Property " ++ toString id ++ " has no tag (variables)"

/-- Why a history is not a path, in words. -/
def HistoryFault.message : HistoryFault → String
  | repeated history =>
    "Step repeated in history: " ++ (Value.list (history.map Value.int)).literal
  | repeatedCode text => "Step " ++ text ++ " duplicated in history"
  | roots count => "History must start at exactly one step, found " ++ toString count
  | cycle => "Cycle in history"

/-- Why saved state does not fit, in words. -/
def MismatchFault.message : MismatchFault → String
  | unknownStep id => "Step not found: " ++ toString id
  | wrongEnd current => "History does not end at the current step " ++ toString current
  | noCurrentStep => "History saved without a current step"
  | noTransition source target =>
    "Script structure does not match: " ++ toString source ++ " -> " ++ toString target

/-- A refusal in words. -/
def ScriptError.message : ScriptError → String
  | definition cause => cause.message
  | state cause => cause.message
  | propertyNotFound property => "Property not found: " ++ property.message
  | value cause => cause.message
  | badCondition cause text => formulaMessage cause.message (cause == .malformed) text
  | conditionFailed cause text => formulaMessage cause.message (cause != .notBoolean) text
  | required _ names =>
    if names.isEmpty then "Required data not entered"
    else "Required fields are not filled in: " ++ joined ", " names
  | finished step => "Final step reached: " ++ toString step
  | looped chain => "Function step chain loops: " ++ joined " -> " (chain.map toString)
  | noPreviousStep => "No previous step"
  | noFirstStep => "First step not defined"
  | functionNotRegistered name => "Function " ++ name ++ " not found"
  | unknownTagProperty tag template =>
    "Text parsing error. Bad property id: " ++ tag ++ "\n(" ++ template ++ ")"
  | saved cause => cause.message
  | code cause => cause.message
  | history cause => cause.message
  | mismatch cause => cause.message
  | unknownChoice step choice =>
    "Choice not found: step " ++ toString step ++ ", choice " ++ toString choice

/-- A misused value, in words. -/
def UsageFault.message : UsageFault → String
  | tooManyDigits => digitsMessage
  | numeralTooLong digits =>
    "Exceeds the limit (4300 digits) for integer string conversion: value has " ++ toString digits ++
      " digits; use sys.set_int_max_str_digits() to increase the limit"
  | notANumber base text =>
    "invalid literal for int() with base " ++ toString base ++ ": " ++ quoted text
  | notAFraction text => "could not convert string to float: " ++ quoted text
  | noSuchCharacter => "chr() arg not in range(0x110000)"
  | repeatedProperty id => "Property duplicated: " ++ toString id
  | emptyMark => "Open and close marks must not be empty"
  | unknownEvent name => "Unknown event: " ++ name
  | tag cause => cause.message
  | settingsNotMapping path => "Settings file must be a mapping: " ++ path
  | invalidSettings path => "Invalid settings in " ++ path
  | badMonth => "month must be in 1..12"
  | badDay => "day is out of range for month"
  | badYear year => "year " ++ toString year ++ " is out of range"
  | badHour => "hour must be in 0..23"
  | badMinute => "minute must be in 0..59"
  | badSecond => "second must be in 0..59"
  | badOffset micros =>
    "offset must be a timedelta strictly between -timedelta(hours=24) and timedelta(hours=24), " ++
      "not " ++ Value.spanLiteral micros ++ "."

/-- A failure in words, where it has words of its own. -/
def Failure.message? : Failure → Option String
  | host message => some message
  | usage cause => some cause.message
  | noScript name => some ("Script not found: " ++ name)
  | noFile path => some ("[Errno 2] No such file or directory: " ++ quoted path)
  | _ => none

/-- An error in words, where it has words of its own. -/
def Error.message? : Error → Option String
  | script cause => some cause.message
  | failure cause => cause.message?

end Walkthrough
