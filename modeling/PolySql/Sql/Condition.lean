import PolySql.Dialect.Function
import PolySql.Dialect.Identifier
import PolySql.Dialect.Paging
import PolySql.Query.Kind
import PolySql.Query.Lookup

/-!
Conditions as SQL. A list of conditions is flattened: the first one rendered shows no connector,
every later one its own, and blank ones leave only their bindings.
-/

namespace PolySql

/-- A nested query, already compiled. -/
structure SubSelect where
  aliasName : Option String
  select : Except CompileError Fragment

instance : Aliased SubSelect := ⟨(·.aliasName)⟩

namespace Dialect

variable (d : Dialect)

def bound (b : Bound) : Fragment := b.fragment d.placeholder

/-- Verbatim SQL: marked names are quoted first, then the marks `?` are filled. -/
def verbatim (sql : Verbatim) : Except CompileError Fragment :=
  fill d.placeholder (d.quoteMarkers sql.expression) sql.bindings

end Dialect

namespace Sql

/-- The LIKE pattern of an operator that asks for one. -/
def likePattern? (operator value : String) : Option String :=
  match Text.lower operator with
  | "like" => some value
  | "starts" => some (value ++ "%")
  | "ends" => some ("%" ++ value)
  | "contains" => some ("%" ++ value ++ "%")
  | _ => none

def negated (isNot : Bool) (f : Fragment) : Fragment := if isNot then "NOT (" ++ f ++ ")" else f

def paren (f : Fragment) : Fragment := "(" ++ f ++ ")"

variable (d : Dialect)

/-- A column matched with a text; both in lowercase unless case matters. -/
def pattern (column operator value : String) (caseSensitive : Bool) : Fragment :=
  let (operator, value) :=
    match likePattern? operator value with
    | some value => ("LIKE", value)
    | none => (operator, value)
  if caseSensitive then d.identifier column ++ " " ++ operator ++ " " ++ d.bind (.str value)
  else
    Dialect.lowerCall (d.identifier column) ++ " " ++ operator ++ " " ++
      d.bind (.str (Text.lower value))

/-- Membership in a list of values; in the empty list it is a constant. -/
def oneOf (isNot : Bool) (column : String) (values : List Bound) : Fragment :=
  if values.isEmpty then (if isNot then "1 = 1" else "1 = 0")
  else
    d.identifier column ++ (if isNot then " NOT IN " else " IN ") ++
      paren (bindAll d.placeholder values)

def test (isNot : Bool) (t : Test SubSelect) : Except CompileError Fragment :=
  match t with
  | .base => .error (.unrecognized t.kind .condition)
  | .verbatim sql => d.verbatim sql
  | .compare column operator value =>
    .ok (negated isNot (d.identifier column ++ " " ++ operator ++ " " ++ d.bound value))
  | .pattern column operator value caseSensitive =>
    .ok (negated isNot (pattern d column operator value caseSensitive))
  | .datePart column part operator value =>
    .ok (negated isNot
      (d.datePart part (d.identifier column) ++ " " ++ operator ++ " " ++ d.bound value))
  | .columns first operator second =>
    .ok ((if isNot then "NOT " else "") ++ d.identifier first ++ " " ++ operator ++ " " ++
      d.identifier second)
  | .subquery column operator query => do
    let sql ← query.select
    return negated isNot (d.identifier column ++ " " ++ operator ++ " " ++ paren sql)
  | .oneOf column values => .ok (oneOf d isNot column values)
  | .oneOfQuery column query => do
    let sql ← query.select
    return d.identifier column ++ (if isNot then " NOT IN " else " IN ") ++ paren sql
  | .between column lower higher =>
    .ok (d.identifier column ++ (if isNot then " NOT BETWEEN " else " BETWEEN ") ++
      d.bound lower ++ " AND " ++ d.bound higher)
  | .isNull column => .ok (d.identifier column ++ (if isNot then " IS NOT NULL" else " IS NULL"))
  | .nonempty query => do
    let sql ← query.select
    return (if isNot then "NOT EXISTS " else "EXISTS ") ++ paren sql
  | .isTrue column value =>
    .ok (d.identifier column ++ (if isNot then " != " else " = ") ++ d.boolLiteral value)

/-- A rendered condition and whether it is connected by OR. -/
structure Term where
  isOr : Bool
  sql : Fragment

/-- Terms in a row, each behind `lead`, once an earlier one is written or not. -/
def connectFrom (lead : String) (started : Bool) : List Term → Fragment
  | [] => ∅
  | term :: rest =>
    if term.sql.text = "" then term.sql ++ connectFrom lead started rest
    else
      let connector := if started then (if term.isOr then " OR " else " AND ") else ""
      connector ++ lead ++ term.sql ++ connectFrom lead true rest

def connect (lead : String) (terms : List Term) : Fragment := connectFrom lead false terms

/-- A group in parentheses, blank if all its members are. -/
def group (isNot : Bool) (members : Fragment) : Fragment :=
  if members.text = "" then members
  else (if isNot then "NOT " else "") ++ paren members

mutual

def condition : Condition SubSelect → Except CompileError Fragment
  | .test flags t => test d flags.isNot t
  | .group flags members => do
    let terms ← memberTerms members
    return group flags.isNot (connect "" terms)

/-- The visible members as stripped terms. -/
def memberTerms : List (Scoped (Condition SubSelect)) → Except CompileError (List Term)
  | [] => .ok []
  | ⟨_, engine, c⟩ :: rest =>
    if engine == wildcard || engine == d.name then do
      let sql ← condition c
      let terms ← memberTerms rest
      return ⟨c.flags.isOr, sql.strip⟩ :: terms
    else memberTerms rest

end

/-- The term of a clause among conditions. -/
def clauseTerm (c : Clause SubSelect) : Except CompileError Term :=
  match c.item with
  | .condition cond => do
    let sql ← condition d cond
    return ⟨cond.flags.isOr, sql.strip⟩
  | body => .error (.unrecognized body.kind .condition)

end Sql

end PolySql
