/-
Problems of a value that was checked.

What a check finds wrong, where, and how it is told: one by one, or as the report of a whole model.

Main statements:
* `Cause` — what is wrong, with its code and its message;
* `Problem` — a cause at a place of the checked value;
* `Problem.report` — the problems of one model as a text.
-/
import ReleaseNotes.Json.Literal

namespace ReleaseNotes

/-- One step from a value to a part of it. -/
inductive Step where
  | field (name : String)
  | index (i : Nat)
  deriving DecidableEq, Repr

/-- How a step is shown. -/
def Step.show : Step → String
  | field name => name
  | index i => Numeral.print i

/-- What is wrong with a value. -/
inductive Cause where
  | missing
  | notObject (model : String)
  | notString
  | undecodable
  | shortString (least : Nat)
  | mismatch (pattern : String)
  | notInteger
  | integerSyntax
  | fractional
  | notFinite
  | integerSize
  | notNumber
  | numberSyntax
  | below (bound : Int)
  | atOrBelow (bound : Int)
  | above (bound : Int)
  | notBoolean
  | booleanSyntax
  | notChoice (choices : List String)
  | notLiteral (choices : List String)
  | notList
  | shortList (least actual : Nat)
  | longList (most actual : Nat)
  | notDictionary
  | rule (message : String)
  | frozen
  deriving DecidableEq, Repr

namespace Cause

/-- A number of things, with the plural where it belongs. -/
def counted (n : Nat) (thing : String) : String :=
  Numeral.print n ++ " " ++ thing ++ (if n = 1 then "" else "s")

/-- Words in quotes, separated by commas, the last two by "or". -/
def alternatives : List String → String
  | [] => ""
  | [a] => quoted a
  | [a, b] => quoted a ++ " or " ++ quoted b
  | a :: rest => quoted a ++ ", " ++ alternatives rest

/-- The code of a cause. -/
def code : Cause → String
  | missing => "missing"
  | notObject _ => "model_type"
  | notString => "string_type"
  | undecodable => "string_unicode"
  | shortString _ => "string_too_short"
  | mismatch _ => "string_pattern_mismatch"
  | notInteger => "int_type"
  | integerSyntax => "int_parsing"
  | fractional => "int_from_float"
  | notFinite => "finite_number"
  | integerSize => "int_parsing_size"
  | notNumber => "float_type"
  | numberSyntax => "float_parsing"
  | below _ => "greater_than_equal"
  | atOrBelow _ => "greater_than"
  | above _ => "less_than_equal"
  | notBoolean => "bool_type"
  | booleanSyntax => "bool_parsing"
  | notChoice _ => "enum"
  | notLiteral _ => "literal_error"
  | notList => "list_type"
  | shortList _ _ => "too_short"
  | longList _ _ => "too_long"
  | notDictionary => "dict_type"
  | rule _ => "value_error"
  | frozen => "frozen_instance"

/-- The message of a cause. -/
def message : Cause → String
  | missing => "Field required"
  | notObject model => "Input should be a valid dictionary or instance of " ++ model
  | notString => "Input should be a valid string"
  | undecodable =>
    "Input should be a valid string, unable to parse raw data as a unicode string"
  | shortString least => "String should have at least " ++ counted least "character"
  | mismatch pattern => "String should match pattern '" ++ pattern ++ "'"
  | notInteger => "Input should be a valid integer"
  | integerSyntax => "Input should be a valid integer, unable to parse string as an integer"
  | fractional => "Input should be a valid integer, got a number with a fractional part"
  | notFinite => "Input should be a finite number"
  | integerSize => "Unable to parse input string as an integer, exceeded maximum size"
  | notNumber => "Input should be a valid number"
  | numberSyntax => "Input should be a valid number, unable to parse string as a number"
  | below bound => "Input should be greater than or equal to " ++ Numeral.printInt bound
  | atOrBelow bound => "Input should be greater than " ++ Numeral.printInt bound
  | above bound => "Input should be less than or equal to " ++ Numeral.printInt bound
  | notBoolean => "Input should be a valid boolean"
  | booleanSyntax => "Input should be a valid boolean, unable to interpret input"
  | notChoice choices => "Input should be " ++ alternatives choices
  | notLiteral choices => "Input should be " ++ alternatives choices
  | notList => "Input should be a valid list"
  | shortList least actual =>
    "List should have at least " ++ counted least "item" ++ " after validation, not " ++
      Numeral.print actual
  | longList most actual =>
    "List should have at most " ++ counted most "item" ++ " after validation, not " ++
      Numeral.print actual
  | notDictionary => "Input should be a valid dictionary"
  | rule message => "Value error, " ++ message
  | frozen => "Instance is frozen"

end Cause

/-- A cause, the place it was found at, and the value that was found there. -/
structure Problem where
  place : List Step
  cause : Cause
  input : Json

namespace Problem

/-- The problem seen from one step further out. -/
def under (step : Step) (p : Problem) : Problem := { p with place := step :: p.place }

/-- The place of a problem, its steps joined by points. -/
def shownPlace (p : Problem) : String := String.intercalate "." (p.place.map Step.show)

/-- The lines on one problem: its place, unless that is the model itself, and its message. -/
def lines (p : Problem) : List String :=
  (if p.place.isEmpty then [] else [p.shownPlace]) ++
    ["  " ++ p.cause.message ++ " [type=" ++ p.cause.code ++ "]"]

/-- The report on the problems of a model. -/
def report (model : String) (problems : List Problem) : String :=
  String.intercalate "\n"
    ((Cause.counted problems.length "validation error" ++ " for " ++ model) ::
      problems.flatMap lines)

end Problem
end ReleaseNotes
