/-
EditorAnalysis.Settings.Issue — why a setting refuses a value.
-/

namespace EditorAnalysis.Settings

/-- The reason for which a value is refused. -/
inductive Reason where
  /-- A text is wanted. -/
  | notText
  /-- An integer is wanted, and the value is of a kind that holds none. -/
  | notInteger
  /-- The text is no numeral. -/
  | badNumeral
  /-- The number is too long to be read. -/
  | numeralTooLong
  /-- The number has a fractional part. -/
  | fractional
  /-- The number is infinite or no number. -/
  | notFinite
  /-- The integer is above the greatest one allowed. -/
  | above (greatest : Int)
  /-- The integer is below the least one allowed. -/
  | below (least : Int)
  /-- The integer is not above a bound. -/
  | notAbove (bound : Int)
  /-- A truth value is wanted, and the value is of a kind that holds none. -/
  | notTruth
  /-- The value is of a kind that may hold a truth value, and holds none. -/
  | badTruth
  /-- There is no setting of that name. -/
  | unknown
  /-- There is no setting of that name to assign to. -/
  | noSuchField (name : String)
deriving DecidableEq, Repr

namespace Reason

/-- A short name for the kind of reason. -/
def kind : Reason → String
  | notText => "string_type"
  | notInteger => "int_type"
  | badNumeral => "int_parsing"
  | numeralTooLong => "int_parsing_size"
  | fractional => "int_from_float"
  | notFinite => "finite_number"
  | above _ => "less_than_equal"
  | below _ => "greater_than_equal"
  | notAbove _ => "greater_than"
  | notTruth => "bool_type"
  | badTruth => "bool_parsing"
  | unknown => "extra_forbidden"
  | noSuchField _ => "no_such_attribute"

/-- The reason in a sentence. -/
def message : Reason → String
  | notText => "Input should be a valid string"
  | notInteger => "Input should be a valid integer"
  | badNumeral => "Input should be a valid integer, unable to parse string as an integer"
  | numeralTooLong => "Unable to parse input string as an integer, exceeded maximum size"
  | fractional => "Input should be a valid integer, got a number with a fractional part"
  | notFinite => "Input should be a finite number"
  | above greatest => "Input should be less than or equal to " ++ toString greatest
  | below least => "Input should be greater than or equal to " ++ toString least
  | notAbove bound => "Input should be greater than " ++ toString bound
  | notTruth => "Input should be a valid boolean"
  | badTruth => "Input should be a valid boolean, unable to interpret input"
  | unknown => "Extra inputs are not permitted"
  | noSuchField name => "Object has no attribute '" ++ name ++ "'"

end Reason

/-- A refused value: the name it was given under and the reason. -/
structure Issue where
  /-- The name of the setting, as the source spells it. -/
  name : String
  /-- Why the value is refused. -/
  reason : Reason
deriving DecidableEq, Repr

end EditorAnalysis.Settings
