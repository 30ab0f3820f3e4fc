/-!
What is wrong with a model: issues, each at a path inside it.
-/

namespace PolySql

inductive IssueKind
  | missing
  | extraForbidden
  | stringType
  | literalError
  | listType
  | callableType
  | modelType
  | boolType
  | boolParsing
  | intType
  | intParsing
  | intFromFloat
  deriving DecidableEq

def IssueKind.name : IssueKind → String
  | .missing => "missing"
  | .extraForbidden => "extra_forbidden"
  | .stringType => "string_type"
  | .literalError => "literal_error"
  | .listType => "list_type"
  | .callableType => "callable_type"
  | .modelType => "model_type"
  | .boolType => "bool_type"
  | .boolParsing => "bool_parsing"
  | .intType => "int_type"
  | .intParsing => "int_parsing"
  | .intFromFloat => "int_from_float"

structure Issue where
  path : List String
  kind : IssueKind
  deriving DecidableEq

namespace Issue

def location (i : Issue) : String := String.intercalate "." i.path

def under (step : String) (i : Issue) : Issue := ⟨step :: i.path, i.kind⟩

/-- Issues are listed by location, then by the name of their kind. -/
def precedes (i j : Issue) : Bool :=
  i.location < j.location || (i.location == j.location && i.kind.name ≤ j.kind.name)

end Issue

/-- All issues of the first model that could not be read. -/
structure ModelError where
  model : String
  issues : List Issue
  deriving DecidableEq

def ModelError.sorted (model : String) (issues : List Issue) : ModelError :=
  ⟨model, issues.mergeSort Issue.precedes⟩

end PolySql
