namespace SuiteTrigger

/-- A step into a record: a field of an object or an item of a list. -/
inductive Place where
  | field (name : String)
  | item (index : Nat)
  deriving DecidableEq

/-- What can be wrong with a value of a record. -/
inductive Fault where
  | missing
  | notText
  | notUnicode
  | emptyText
  | notInteger
  | notIntegerText
  | hugeInteger
  | hasFraction
  | notFinite
  | notBoolean
  | notBooleanText
  | notList
  | emptyList
  | notOneOf (choices : List String)
  | notRecord (record : String)
  | unknownField
  | noTarget
  | frozen
  deriving DecidableEq

structure Problem where
  place : List Place
  fault : Fault
  deriving DecidableEq

/-- The choices of a closed list in a sentence. -/
def sentenceOfChoices : List String → String
  | [] => ""
  | [choice] => s!"'{choice}'"
  | [first, last] => s!"'{first}' or '{last}'"
  | first :: rest => s!"'{first}', " ++ sentenceOfChoices rest

namespace Fault

def code : Fault → String
  | .missing => "missing"
  | .notText => "string_type"
  | .notUnicode => "string_unicode"
  | .emptyText => "string_too_short"
  | .notInteger => "int_type"
  | .notIntegerText => "int_parsing"
  | .hugeInteger => "int_parsing_size"
  | .hasFraction => "int_from_float"
  | .notFinite => "finite_number"
  | .notBoolean => "bool_type"
  | .notBooleanText => "bool_parsing"
  | .notList => "list_type"
  | .emptyList => "too_short"
  | .notOneOf _ => "literal_error"
  | .notRecord _ => "model_type"
  | .unknownField => "extra_forbidden"
  | .noTarget => "value_error"
  | .frozen => "frozen_instance"

def message : Fault → String
  | .missing => "Field required"
  | .notText => "Input should be a valid string"
  | .notUnicode =>
    "Input should be a valid string, unable to parse raw data as a unicode string"
  | .emptyText => "String should have at least 1 character"
  | .notInteger => "Input should be a valid integer"
  | .notIntegerText =>
    "Input should be a valid integer, unable to parse string as an integer"
  | .hugeInteger => "Unable to parse input string as an integer, exceeded maximum size"
  | .hasFraction => "Input should be a valid integer, got a number with a fractional part"
  | .notFinite => "Input should be a finite number"
  | .notBoolean => "Input should be a valid boolean"
  | .notBooleanText => "Input should be a valid boolean, unable to interpret input"
  | .notList => "Input should be a valid list"
  | .emptyList => "List should have at least 1 item after validation, not 0"
  | .notOneOf choices => "Input should be " ++ sentenceOfChoices choices
  | .notRecord record => s!"Input should be a valid dictionary or instance of {record}"
  | .unknownField => "Extra inputs are not permitted"
  | .noTarget => "Value error, At least one full test target is required"
  | .frozen => "Instance is frozen"

end Fault

/-- The problems of one record. -/
structure Refusal where
  record : String
  problems : List Problem
  deriving DecidableEq

/-- The headline of a refusal: how many problems, and of which record. -/
def Refusal.headline (r : Refusal) : String :=
  let count := r.problems.length
  let noun := if count = 1 then "error" else "errors"
  s!"{count} validation {noun} for {r.record}"

end SuiteTrigger
