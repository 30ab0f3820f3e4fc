import PolySql.Dialect.Basic
import PolySql.Text.Case

/-!
Functions and literals in each flavor.
-/

namespace PolySql

/-- The `strftime` format of a part, and whether the part is a number. -/
def strftimeFormats : List (String × String × Bool) :=
  [("date", "%Y-%m-%d", false), ("time", "%H:%M:%S", false), ("year", "%Y", true),
   ("month", "%m", true), ("day", "%d", true), ("hour", "%H", true), ("minute", "%M", true)]

namespace Dialect

variable (d : Dialect)

def random (seed : String) : String :=
  match d.flavor with
  | .mysql => "RAND(" ++ seed ++ ")"
  | .sqlServer => "NEWID()"
  | _ => "RANDOM()"

def lowerCall (value : String) : String := "LOWER(" ++ value ++ ")"

def upperCall (value : String) : String := "UPPER(" ++ value ++ ")"

def boolLiteral (b : Bool) : String :=
  match d.flavor with
  | .sqlite => if b then "1" else "0"
  | .sqlServer => if b then "cast(1 as bit)" else "cast(0 as bit)"
  | _ => if b then "true" else "false"

def datePart (part column : String) : String :=
  let name := Text.lower part
  let call := Text.upper part ++ "(" ++ column ++ ")"
  match d.flavor with
  | .ansi => call
  | .sqlite =>
    match strftimeFormats.lookup name with
    | none => call
    | some (format, numeric) =>
      let sql := "strftime('" ++ format ++ "', " ++ column ++ ")"
      if numeric then "CAST(" ++ sql ++ " AS INTEGER)" else sql
  | .postgres =>
    if name = "date" then column ++ "::DATE"
    else if name = "time" then column ++ "::TIME"
    else
      let field := String.ofList (name.toList.flatMap fun c => if c = '\'' then [c, c] else [c])
      "DATE_PART('" ++ field ++ "', " ++ column ++ "::TIMESTAMP)"
  | .mysql =>
    if name = "date" ∨ name = "time" then Text.upper name ++ "(" ++ column ++ ")"
    else "EXTRACT(" ++ Text.upper part ++ " FROM " ++ column ++ ")"
  | .sqlServer =>
    if name = "date" ∨ name = "time" then
      "CAST(" ++ column ++ " AS " ++ Text.upper name ++ ")"
    else "DATEPART(" ++ Text.upper name ++ ", " ++ column ++ ")"

end Dialect

end PolySql
