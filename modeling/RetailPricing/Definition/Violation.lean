import RetailPricing.Datum.Basic

/-!
# Violations

When fields are checked, everything that is wrong with them is collected. A
violation says what is wrong, where, and which datum was found there.
-/

namespace RetailPricing

/-- One step on the way from a checked datum to a part of it. -/
inductive Place
  | field (name : String)
  | position (index : Nat)
deriving DecidableEq

inductive Requirement
  | present
  | text
  | nonemptyText
  | list
  | mapping
  | definition (name : String)
  | member (words : List String)
  | integer
  | number
  | decimal
  | finiteNumber
  | boolean
  | readableBoolean
deriving DecidableEq

/-- A requirement that the datum at some place does not meet. -/
structure Violation where
  requirement : Requirement
  location : List Place
  found : Datum

namespace Requirement

/-- The words between quotes, the last one behind "or". -/
def alternatives : List String → String
  | [] => ""
  | [last] => "'" ++ last ++ "'"
  | [first, last] => "'" ++ first ++ "' or '" ++ last ++ "'"
  | first :: rest => "'" ++ first ++ "', " ++ alternatives rest

def code : Requirement → String
  | present => "missing"
  | text => "string_type"
  | nonemptyText => "string_too_short"
  | list => "list_type"
  | mapping => "dict_type"
  | definition _ => "model_type"
  | member _ => "enum"
  | integer => "int_type"
  | number => "float_type"
  | decimal => "is_instance_of"
  | finiteNumber => "finite_number"
  | boolean => "bool_type"
  | readableBoolean => "bool_parsing"

def message : Requirement → String
  | present => "Field required"
  | text => "Input should be a valid string"
  | nonemptyText => "String should have at least 1 character"
  | list => "Input should be a valid list"
  | mapping => "Input should be a valid dictionary"
  | definition name =>
      "Input should be a valid dictionary or instance of " ++ name
  | member words => "Input should be " ++ alternatives words
  | integer => "Input should be a valid integer"
  | number => "Input should be a valid number"
  | decimal => "Input should be an instance of Decimal"
  | finiteNumber => "Input should be a finite number"
  | boolean => "Input should be a valid boolean"
  | readableBoolean =>
      "Input should be a valid boolean, unable to interpret input"

end Requirement

namespace Place

def toDatum : Place → Datum
  | field name => .ofString name
  | position index => .int index

end Place

namespace Violation

/-- The violation seen from a datum that holds the checked one at `place`. -/
def under (place : Place) (violation : Violation) : Violation :=
  { violation with location := place :: violation.location }

/-- The violation as a written response shows it.  The location is a tuple as long as
nothing is written; in the response it is an array, and so it stands here as a list. -/
def toDatum (violation : Violation) : Datum :=
  .mapping
    [("type", .ofString violation.requirement.code),
      ("loc", .list (violation.location.map Place.toDatum)),
      ("msg", .ofString violation.requirement.message),
      ("input", violation.found)]

end Violation

end RetailPricing
