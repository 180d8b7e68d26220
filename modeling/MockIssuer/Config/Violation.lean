import MockIssuer.Number.Integer

/-!
# Violations

What a record refuses about one of its fields. Each problem has a short code and a sentence. A
violation without a field concerns the record as a whole.
-/
namespace MockIssuer

inductive Problem where
  | missing
  | frozen
  | notAnInteger
  | notIntegerText
  | fractional
  | tooLarge
  | notFinite
  | below (bound : Int)
  | above (bound : Int)
  | notABoolean
  | notBooleanText
  | notAString
  | tooShort
  | notAChoice
  | notAnObject
  | notAPath
  | refused (reason : String)
  deriving DecidableEq

namespace Problem

def code : Problem → String
  | missing => "missing"
  | frozen => "frozen_instance"
  | notAnInteger => "int_type"
  | notIntegerText => "int_parsing"
  | fractional => "int_from_float"
  | tooLarge => "int_parsing_size"
  | notFinite => "finite_number"
  | below _ => "greater_than_equal"
  | above _ => "less_than_equal"
  | notABoolean => "bool_type"
  | notBooleanText => "bool_parsing"
  | notAString => "string_type"
  | tooShort => "string_too_short"
  | notAChoice => "enum"
  | notAnObject => "dict_type"
  | notAPath => "path_type"
  | refused _ => "value_error"

def message : Problem → String
  | missing => "Field required"
  | frozen => "Instance is frozen"
  | notAnInteger => "Input should be a valid integer"
  | notIntegerText => "Input should be a valid integer, unable to parse string as an integer"
  | fractional => "Input should be a valid integer, got a number with a fractional part"
  | tooLarge => "Unable to parse input string as an integer, exceeded maximum size"
  | notFinite => "Input should be a finite number"
  | below bound =>
    "Input should be greater than or equal to " ++ String.ofList (Number.intText bound)
  | above bound => "Input should be less than or equal to " ++ String.ofList (Number.intText bound)
  | notABoolean => "Input should be a valid boolean"
  | notBooleanText => "Input should be a valid boolean, unable to interpret input"
  | notAString => "Input should be a valid string"
  | tooShort => "String should have at least 1 character"
  | notAChoice => "Input should be 'XSUAA' or 'IAS'"
  | notAnObject => "Input should be a valid dictionary"
  | notAPath => "Input is not a valid path for <class 'pathlib.Path'>"
  | refused reason => "Value error, " ++ reason

end Problem

structure Violation where
  field : Option String
  problem : Problem
  deriving DecidableEq

end MockIssuer
