import PolySql.Sql.Select

/-!
Whole statements: a WITH list, then a select or a change of one named table.
-/

namespace PolySql

namespace Sql

variable (t : Target)

/-- The table that a statement changes. -/
def changedTable (change : Change) (cs : List (Clause SubSelect)) :
    Except CompileError Fragment :=
  match effectiveItem cs "from" t.engine with
  | none => .error (.missingTarget change)
  | some (.table (.named name)) => .ok (t.dialect.identifier name)
  | some body => .error (.invalidTarget change body.kind)

/-- A row has as many values as columns. -/
def checkRow (change : Change) (columns : List String) (values : List Bound) :
    Except CompileError Unit :=
  if columns.length = values.length then .ok ()
  else .error (.valueCount change columns.length values.length)

def insert (cs : List (Clause SubSelect)) : Except CompileError Fragment := do
  let target ← changedTable t .insert cs
  match effectiveItem cs "insert" t.engine with
  | some (.insert (.row columns values)) =>
    checkRow .insert columns values
    return "INSERT INTO " ++ target ++ " (" ++ t.dialect.identifiers columns ++ ") VALUES " ++
      paren (bindAll t.dialect.placeholder values)
  | some (.insert (.rows columns query)) =>
    let list := if columns.isEmpty then "" else "(" ++ t.dialect.identifiers columns ++ ") "
    let sql ← query.select
    return "INSERT INTO " ++ target ++ " " ++ list ++ sql
  | _ => .error (.noValues .insert)

/-- The filter after a space, left out where blank. -/
def whereSuffix (cs : List (Clause SubSelect)) : Except CompileError Fragment := do
  let sql ← wherePart t cs
  return if sql.text = "" then sql else " " ++ sql

def assignments (columns : List String) (values : List Bound) : Fragment :=
  .separated ", " ((columns.zip values).map fun p =>
    t.dialect.identifier p.1 ++ " = " ++ t.dialect.bound p.2)

def update (cs : List (Clause SubSelect)) : Except CompileError Fragment := do
  let target ← changedTable t .update cs
  match effectiveItem cs "update" t.engine with
  | some (.insert (.row columns values)) =>
    checkRow .update columns values
    let filter ← whereSuffix t cs
    return "UPDATE " ++ target ++ " SET " ++ assignments t columns values ++ filter
  | _ => .error (.noValues .update)

def delete (cs : List (Clause SubSelect)) : Except CompileError Fragment := do
  let target ← changedTable t .delete cs
  let filter ← whereSuffix t cs
  return "DELETE FROM " ++ target ++ filter

def statement (b : Block SubSelect) : Except CompileError Fragment := do
  let ctes ← withList t.dialect b.clauses
  let sql ←
    match b.method with
    | .change .insert => insert t b.clauses
    | .change .update => update t b.clauses
    | .change .delete => delete t b.clauses
    | .select => select t b.isDistinct b.clauses
  return ctes ++ sql

end Sql

/-- Compiles the nested queries of a query, innermost first, as selects. -/
def Query.subSelect (t : Target) : Query → SubSelect := Query.fold (Sql.subSelect t)

theorem Query.subSelect_eq (t : Target) (q : Query) :
    q.subSelect t = Sql.subSelect t (q.block.map (Query.subSelect t)) := by
  cases q with
  | ofBlock b => exact fold_ofBlock (Sql.subSelect t) b

/-- Compiles a query for a dialect: its SQL and the values of the placeholders, in text order. -/
def Query.compile (t : Target) (q : Query) : Except CompileError Fragment :=
  Sql.statement t (q.block.map (Query.subSelect t))

end PolySql
