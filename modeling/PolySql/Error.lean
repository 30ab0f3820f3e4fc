import PolySql.Query.Basic
import PolySql.Text.Quoted

/-!
Why a query cannot be compiled.
-/

namespace PolySql

/-- The part of a statement that expects clauses of certain kinds. -/
inductive Section
  | table
  | aggregate
  | join
  | order
  | union
  | cte
  | column
  | condition
  | limit
  | lock
  deriving DecidableEq

def Section.title : Section → String
  | .table => "TableExpression"
  | .aggregate => "Aggregate"
  | .join => "Join"
  | .order => "Order"
  | .union => "Union"
  | .cte => "Cte"
  | .column => "Column"
  | .condition => "Condition"
  | .limit => "Limit"
  | .lock => "Lock"

inductive CompileError
  /-- The `?` of verbatim SQL, names already quoted, are not as many as the bindings. -/
  | bindingCount (expression : String) (supplied : Nat)
  | valueCount (change : Change) (columns values : Nat)
  | noValues (change : Change)
  | missingCteAlias
  | missingTarget (change : Change)
  | invalidTarget (change : Change) (kind : String)
  | unrecognized (kind : String) (place : Section)
  | missingBaseAlias (expression : String)
  deriving DecidableEq

namespace CompileError

def message : CompileError → String
  | bindingCount expression supplied =>
    s!"Raw expression {Text.quoted expression} expects a different number of bindings than the " ++
      s!"{supplied} supplied."
  | valueCount change columns values =>
    s!"Got {columns} columns but {values} values to {change.name}."
  | noValues change => s!"No values set to {change.name}."
  | missingCteAlias => "Every CTE requires an alias."
  | missingTarget change => s!"No table set to {change.name}."
  | invalidTarget change kind =>
    s!"Invalid table expression \"{kind}\" for {change.name}; a named table is required."
  | unrecognized kind place =>
    s!"Invalid type \"{kind}\" provided for the \"{place.title}\" clause."
  | missingBaseAlias expression =>
    "No table or alias found for the main query; one is needed to generate the deep join " ++
      s!"'{expression}'."

/-- The part of the statement under compilation, where one is known. -/
def clause? : CompileError → Option String
  | bindingCount _ _ => none
  | valueCount change _ _ | noValues change => some change.name
  | missingCteAlias => some "cte"
  | missingTarget _ | invalidTarget _ _ => some "from"
  | unrecognized _ place => some place.title
  | missingBaseAlias _ => some "join"

end CompileError

end PolySql
