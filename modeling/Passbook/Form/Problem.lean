import Passbook.Json.Shown
import Passbook.Text.Shortened
/-! What is wrong with a value somebody filled in. -/
namespace Passbook.Form

inductive Problem where
  | absent
  | notInteger
  | malformedInteger
  | endlessInteger
  | fraction
  | notFinite
  | notBoolean
  | malformedBoolean
  | notText
  /-- A text that holds half of a pair alone. -/
  | illFormed
  | notObject
  | notJson
  | notAbove (bound : Int)
  | below (bound : Int)
  | above (bound : Int)
  | refused (reason : String)
deriving DecidableEq, Repr

namespace Problem

def kind : Problem → String
  | .absent => "missing"
  | .notInteger => "int_type"
  | .malformedInteger => "int_parsing"
  | .endlessInteger => "int_parsing_size"
  | .fraction => "int_from_float"
  | .notFinite => "finite_number"
  | .notBoolean => "bool_type"
  | .malformedBoolean => "bool_parsing"
  | .notText => "string_type"
  | .illFormed => "string_unicode"
  | .notObject => "model_attributes_type"
  | .notJson => "json_invalid"
  | .notAbove _ => "greater_than"
  | .below _ => "greater_than_equal"
  | .above _ => "less_than_equal"
  | .refused _ => "value_error"

def message : Problem → String
  | .absent => "Field required"
  | .notInteger => "Input should be a valid integer"
  | .malformedInteger => "Input should be a valid integer, unable to parse string as an integer"
  | .endlessInteger => "Unable to parse input string as an integer, exceeded maximum size"
  | .fraction => "Input should be a valid integer, got a number with a fractional part"
  | .notFinite => "Input should be a finite number"
  | .notBoolean => "Input should be a valid boolean"
  | .malformedBoolean => "Input should be a valid boolean, unable to interpret input"
  | .notText => "Input should be a valid string"
  | .illFormed => "Input should be a valid string, unable to parse raw data as a unicode string"
  | .notObject => "Input should be a valid dictionary or object to extract fields from"
  | .notJson => "JSON decode error"
  | .notAbove bound => s!"Input should be greater than {bound}"
  | .below bound => s!"Input should be greater than or equal to {bound}"
  | .above bound => s!"Input should be less than or equal to {bound}"
  | .refused reason => "Value error, " ++ reason

def context : Problem → List (String × Json)
  | .notAbove bound => [("gt", .int bound)]
  | .below bound => [("ge", .int bound)]
  | .above bound => [("le", .int bound)]
  | _ => []

end Problem

structure Flaw where
  field : String
  problem : Problem
  shown : String
  kind : String
deriving DecidableEq, Repr

namespace Flaw

def ofValue (field : String) (found : Json) (problem : Problem) : Flaw := ⟨field, problem, found.shown, found.kind⟩

private def guide (problem : Problem) : String := "https" ++ "://" ++ "errors.pydantic.dev" ++ "/2.14/v/" ++ problem.kind

def text (flaw : Flaw) : String :=
  flaw.field ++ "\n  " ++ flaw.problem.message ++ " [type=" ++ flaw.problem.kind ++ ", input_value="
    ++ Text.shortened 50 flaw.shown ++ ", input_type=" ++ flaw.kind ++ "]\n    For further information visit " ++ guide flaw.problem

def report (title : String) (flaws : List Flaw) : String :=
  "\n".intercalate ((toString flaws.length ++ " validation error" ++ (if flaws.length = 1 then "" else "s") ++ " for " ++ title)
    :: flaws.map text)

end Flaw

structure Complaint where
  place : List Json
  problem : Problem
  found : Json := .null

def Complaint.toJson (c : Complaint) : Json :=
  .object [("type", .string c.problem.kind), ("loc", .array c.place), ("msg", .string c.problem.message)]

def Complaint.sent (c : Complaint) : Json :=
  let context := if c.problem.context.isEmpty then [] else [("ctx", Json.object c.problem.context)]
  .object ([("type", .string c.problem.kind), ("loc", .array c.place), ("msg", .string c.problem.message),
    ("input", c.found.disclosed)] ++ context)

end Passbook.Form
