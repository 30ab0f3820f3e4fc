import PolySql.Query.Choice
import PolySql.Query.PathJoin
import PolySql.Sql.Condition

/-!
Tables, joins, columns, and the WITH list as SQL.
-/

namespace PolySql.Sql

variable (d : Dialect)

/-- A name after AS, left out where there is none. -/
def aliasSuffix (aliasName : Option String) : String :=
  match aliasName with
  | none | some "" => ""
  | some aliasName => " AS " ++ d.quote aliasName

def table (t : Table SubSelect) : Except CompileError Fragment :=
  match t with
  | .base => .error (.unrecognized t.kind .table)
  | .named name => .ok (d.identifier name)
  | .verbatim sql _ => d.verbatim sql
  | .derived query _ => do
    let sql ← query.select
    return paren sql ++ aliasSuffix d t.refName

/-- The table that a clause stands for. -/
def tableOf (body : Body SubSelect) : Except CompileError Fragment :=
  match body with
  | .table t => table d t
  | body => .error (.unrecognized body.kind .table)

def join (body : Body SubSelect) : Except CompileError Fragment :=
  match body with
  | .join (.explicit j) => do
    let target ← table d j.table.item
    let on := connect "" (← memberTerms d j.conditions)
    let lead := j.type.name ++ " JOIN "
    return if on.text = "" then lead ++ target ++ on else lead ++ target ++ " ON " ++ on
  | body => .error (.unrecognized body.kind .join)

def column (body : Body SubSelect) : Except CompileError Fragment :=
  match body with
  | .column (.named name) => .ok (d.identifier name)
  | .column (.verbatim sql) => d.verbatim sql
  | .column (.subquery query) => do
    let sql ← query.select
    return paren sql ++ aliasSuffix d query.aliasName
  | body => .error (.unrecognized body.kind .column)

def columns (cs : List (Clause SubSelect)) : Except CompileError Fragment :=
  .separated ", " <$> cs.mapM fun c => column d c.item

/-- A named query of the WITH list. -/
def definition (aliasName : Option String) (query : Except CompileError Fragment) :
    Except CompileError Fragment :=
  match aliasName with
  | none | some "" => .error .missingCteAlias
  | some aliasName => do
    let sql ← query
    return d.quote aliasName ++ " AS " ++ paren sql

def cte (body : Body SubSelect) : Except CompileError Fragment :=
  match body with
  | .table (.verbatim sql aliasName) => definition d aliasName (d.verbatim sql)
  | .table (.derived query aliasName) =>
    definition d (Table.derived query aliasName).refName query.select
  | body => .error (.unrecognized body.kind .cte)

/-- The WITH list in front of a statement, with the space after it. -/
def withList (cs : List (Clause SubSelect)) : Except CompileError Fragment :=
  match visible cs "cte" d.name with
  | [] => .ok ∅
  | ctes => do
    let definitions ← ctes.mapM fun c => cte d c.item
    return "WITH " ++ Fragment.separated ", " definitions ++ " "

theorem withList_eq_ite (cs : List (Clause SubSelect)) :
    withList d cs = if anyVisible cs "cte" d.name then do
        let definitions ← (visible cs "cte" d.name).mapM fun c => cte d c.item
        return "WITH " ++ Fragment.separated ", " definitions ++ " "
      else .ok ∅ := by
  have hseen := anyVisible_iff cs "cte" d.name
  unfold withList
  split
  · next hnil => rw [if_neg fun h => hseen.mp h hnil]
  · next hsome => rw [if_pos (hseen.mpr hsome)]

end PolySql.Sql
