import PolySql.Proofs.Shared.Writer
import PolySql.Sql.Statement

/-!
The compiler with one binder for the whole statement: every part, and every nested query in it,
binds its values as it is written. What is written does not depend on what is bound.
-/

namespace PolySql

/-- A nested query, to be written with the binder of the statement around it. -/
structure Nested where
  aliasName : Option String
  select : Writer String

instance : Aliased Nested := ⟨(·.aliasName)⟩

namespace Shared

open Writer

section Conditions

variable (d : Dialect)

def bound (b : Bound) : Writer String := call d.placeholder (.parameter b)

def bindCount (n : Int) : Writer String := bound d (.value (.int n))

def bindAll (bs : List Bound) : Writer String := call d.placeholder (.parametrize bs)

def verbatim (sql : Verbatim) : Writer String :=
  call d.placeholder (.raw (d.quoteMarkers sql.expression) sql.bindings)

def paren (sql : String) : String := "(" ++ sql ++ ")"

def negated (isNot : Bool) (sql : String) : String := if isNot then "NOT (" ++ sql ++ ")" else sql

def test (isNot : Bool) (t : Test Nested) : Writer String :=
  match t with
  | .base => throw (.unrecognized t.kind .condition)
  | .verbatim sql => verbatim d sql
  | .compare column operator value => do
    let value ← bound d value
    return negated isNot (d.identifier column ++ " " ++ operator ++ " " ++ value)
  | .pattern column operator value caseSensitive => do
    let (operator, value) :=
      match Sql.likePattern? operator value with
      | some value => ("LIKE", value)
      | none => (operator, value)
    let column := d.identifier column
    let column := if caseSensitive then column else Dialect.lowerCall column
    let value := if caseSensitive then value else Text.lower value
    let value ← bound d (.value (.str value))
    return negated isNot (column ++ " " ++ operator ++ " " ++ value)
  | .datePart column part operator value => do
    let column := d.datePart part (d.identifier column)
    let value ← bound d value
    return negated isNot (column ++ " " ++ operator ++ " " ++ value)
  | .columns first operator second =>
    return (if isNot then "NOT " else "") ++ d.identifier first ++ " " ++ operator ++ " " ++
      d.identifier second
  | .subquery column operator query => do
    let sql ← query.select
    return negated isNot (d.identifier column ++ " " ++ operator ++ " " ++ paren sql)
  | .oneOf column values =>
    if values.isEmpty then return if isNot then "1 = 1" else "1 = 0"
    else do
      let values ← bindAll d values
      return d.identifier column ++ (if isNot then " NOT IN " else " IN ") ++ paren values
  | .oneOfQuery column query => do
    let sql ← query.select
    return d.identifier column ++ (if isNot then " NOT IN " else " IN ") ++ paren sql
  | .between column lower higher => do
    let lower ← bound d lower
    let higher ← bound d higher
    return d.identifier column ++ (if isNot then " NOT BETWEEN " else " BETWEEN ") ++ lower ++
      " AND " ++ higher
  | .isNull column => return d.identifier column ++ (if isNot then " IS NOT NULL" else " IS NULL")
  | .nonempty query => do
    let sql ← query.select
    return (if isNot then "NOT EXISTS " else "EXISTS ") ++ paren sql
  | .isTrue column value =>
    return d.identifier column ++ (if isNot then " != " else " = ") ++ d.boolLiteral value

/-- Rendered conditions in a row, each with whether it is connected by OR; skips blank ones. -/
def connectFrom (lead : String) (started : Bool) : List (Bool × String) → String
  | [] => ""
  | (isOr, sql) :: rest =>
    if sql = "" then connectFrom lead started rest
    else
      (if started then (if isOr then " OR " else " AND ") else "") ++ lead ++ sql ++
        connectFrom lead true rest

def connect (lead : String) (terms : List (Bool × String)) : String := connectFrom lead false terms

mutual

def condition : Condition Nested → Writer String
  | .test flags t => test d flags.isNot t
  | .group flags members => do
    let terms ← memberTerms members
    let sql := connect "" terms
    return if sql = "" then "" else (if flags.isNot then "NOT " else "") ++ paren sql

def memberTerms : List (Scoped (Condition Nested)) → Writer (List (Bool × String))
  | [] => return []
  | ⟨_, engine, c⟩ :: rest =>
    if engine == wildcard || engine == d.name then do
      let sql ← condition c
      let terms ← memberTerms rest
      return (c.flags.isOr, Text.strip sql) :: terms
    else memberTerms rest

end

def clauseTerm (c : Clause Nested) : Writer (Bool × String) :=
  match c.item with
  | .condition cond => do
    let sql ← condition d cond
    return (cond.flags.isOr, Text.strip sql)
  | body => throw (.unrecognized body.kind .condition)

end Conditions

section Tables

variable (d : Dialect)

def table (a : Table Nested) : Writer String :=
  match a with
  | .base => throw (.unrecognized a.kind .table)
  | .named name => return d.identifier name
  | .verbatim sql _ => verbatim d sql
  | .derived query _ => do
    let sql ← query.select
    return paren sql ++ Sql.aliasSuffix d a.refName

def tableOf (body : Body Nested) : Writer String :=
  match body with
  | .table a => table d a
  | body => throw (.unrecognized body.kind .table)

def join (body : Body Nested) : Writer String :=
  match body with
  | .join (.explicit j) => do
    let target ← table d j.table.item
    let on := connect "" (← memberTerms d j.conditions)
    return j.type.name ++ " JOIN " ++ target ++ if on = "" then "" else " ON " ++ on
  | body => throw (.unrecognized body.kind .join)

def column (body : Body Nested) : Writer String :=
  match body with
  | .column (.named name) => return d.identifier name
  | .column (.verbatim sql) => verbatim d sql
  | .column (.subquery query) => do
    let sql ← query.select
    return paren sql ++ Sql.aliasSuffix d query.aliasName
  | body => throw (.unrecognized body.kind .column)

def columns (cs : List (Clause Nested)) : Writer String :=
  String.intercalate ", " <$> cs.mapM fun c => column d c.item

def definition (aliasName : Option String) (query : Writer String) : Writer String :=
  match aliasName with
  | none | some "" => throw .missingCteAlias
  | some aliasName => do
    let sql ← query
    return d.quote aliasName ++ " AS " ++ paren sql

def cte (body : Body Nested) : Writer String :=
  match body with
  | .table (.verbatim sql aliasName) => definition d aliasName (verbatim d sql)
  | .table (.derived query aliasName) =>
    definition d (Table.derived query aliasName).refName query.select
  | body => throw (.unrecognized body.kind .cte)

def withList (cs : List (Clause Nested)) : Writer String :=
  match visible cs "cte" d.name with
  | [] => return ""
  | ctes => do
    let definitions ← ctes.mapM fun c => cte d c.item
    return "WITH " ++ String.intercalate ", " definitions ++ " "

def top (w : Window) : Writer (Option String) :=
  match d.flavor, w.take?, w.skip? with
  | .sqlServer, some n, none => do
    let n ← bindCount d n
    return some ("TOP (" ++ n ++ ")")
  | _, _, _ => return none

def limit (w : Window) : Writer (Option String) :=
  match d.flavor, w.take?, w.skip? with
  | .sqlServer, _, _ => return none
  | .sqlite, none, some _ => return some "LIMIT -1"
  | .mysql, none, some _ => return some "LIMIT 18446744073709551615"
  | _, some n, _ => do
    let n ← bindCount d n
    return some ("LIMIT " ++ n)
  | _, none, _ => return none

def offset (w : Window) : Writer (Option String) :=
  match d.flavor, w.skip?, w.take? with
  | _, none, _ => return none
  | .sqlServer, some k, some n => do
    let k ← bindCount d k
    let n ← bindCount d n
    return some ("OFFSET " ++ k ++ " ROWS FETCH NEXT " ++ n ++ " ROWS ONLY")
  | .sqlServer, some k, none => do
    let k ← bindCount d k
    return some ("OFFSET " ++ k ++ " ROWS")
  | _, some k, _ => do
    let k ← bindCount d k
    return some ("OFFSET " ++ k)

end Tables

section Statements

variable (t : Target)

def windowOf (cs : List (Clause Nested)) : Except CompileError (Option Window) :=
  match effectiveItem cs "limit" t.engine with
  | none => .ok none
  | some (.window w) => .ok (some w)
  | some body => .error (.unrecognized body.kind .limit)

def lockOf (cs : List (Clause Nested)) : Except CompileError (Option LockMode) :=
  match effectiveItem cs "lock" t.engine with
  | none => .ok none
  | some (.lock mode) => .ok (some mode)
  | some body => .error (.unrecognized body.kind .lock)

/-- What a window writes in one of its places, left out without a window. -/
def windowPart (write : Window → Writer (Option String)) (window : Option Window) :
    Writer (Option String) :=
  match window with
  | none => return none
  | some w => write w

def topPart (window : Option Window) : Writer String := do
  let top ← windowPart (top t.dialect) window
  return match top with
    | none => ""
    | some top => top ++ " "

def aggregatePart (window : Option Window) (isDistinct : Bool) (cs : List (Clause Nested)) :
    Writer String :=
  match effectiveItem cs "aggregate" t.engine with
  | none => return ""
  | some (.aggregate a) => do
    let columns := t.dialect.identifiers (if a.columns.isEmpty then ["*"] else a.columns)
    let distinct := if isDistinct && columns ≠ "*" then "DISTINCT " else ""
    let aliasName := (a.aliasName.filter (· ≠ "")).getD t.options.aggregateAlias
    let top ← topPart t window
    return "SELECT " ++ top ++ Text.upper a.function ++ "(" ++ distinct ++ columns ++ ") AS " ++
      t.dialect.quote aliasName
  | some body => throw (.unrecognized body.kind .aggregate)

def columnsPart (window : Option Window) (isDistinct : Bool) (cs : List (Clause Nested)) :
    Writer String :=
  if anyVisible cs "aggregate" t.engine || !anyVisible cs "select" t.engine then return ""
  else do
    let top ← topPart t window
    let list ← columns t.dialect (visible cs "select" t.engine)
    return "SELECT " ++ (if isDistinct then "DISTINCT " else "") ++ top ++
      if list = "" then "*" else list

def fromPart (cs : List (Clause Nested)) : Writer String :=
  match effectiveItem cs "from" t.engine with
  | none => return ""
  | some body => do
    let sql ← tableOf t.dialect body
    return "FROM " ++ sql

def joinPart (cs : List (Clause Nested)) : Writer String :=
  String.intercalate " " <$> (visible cs "join" t.engine).mapM fun c => join t.dialect c.item

def wherePart (cs : List (Clause Nested)) : Writer String :=
  if anyVisible cs "from" t.engine then do
    let terms ← (visible cs "where" t.engine).mapM (clauseTerm t.dialect)
    let sql := connect "" terms
    return if sql = "" then "" else "WHERE " ++ sql
  else return ""

def groupPart (cs : List (Clause Nested)) : Writer String :=
  match visible cs "group" t.engine with
  | [] => return ""
  | groups => do
    let list ← columns t.dialect groups
    return "GROUP BY " ++ list

def havingPart (cs : List (Clause Nested)) : Writer String :=
  connect "HAVING " <$> (visible cs "having" t.engine).mapM (clauseTerm t.dialect)

def orderItem (body : Body Nested) : Writer String :=
  match body with
  | .order (.column column ascending) =>
    return t.dialect.identifier column ++ (if ascending then "" else " DESC")
  | .order (.verbatim sql) => verbatim t.dialect sql
  | .order (.random seed) => return t.dialect.random seed
  | body => throw (.unrecognized body.kind .order)

def orderPart (cs : List (Clause Nested)) : Writer String :=
  match visible cs "order" t.engine with
  | [] => return ""
  | items => do
    let items ← items.mapM fun c => orderItem t c.item
    return "ORDER BY " ++ String.intercalate ", " items

def union (body : Body Nested) : Writer String :=
  match body with
  | .union (.operand operation all query) => do
    let sql ← query.select
    return Sql.setKeyword operation ++ (if all then " ALL " else " ") ++ sql
  | .union (.verbatim sql) => verbatim t.dialect sql
  | body => throw (.unrecognized body.kind .union)

def unionPart (cs : List (Clause Nested)) : Writer String :=
  String.intercalate " " <$> (visible cs "union" t.engine).mapM fun c => union t c.item

def allColumns : Clause Nested := ⟨"select", wildcard, .column (.named "*")⟩

/-- The parts that are not blank, stripped, with one space between them. -/
def sentence (parts : List String) : String :=
  String.intercalate " " ((parts.map Text.strip).filter (· ≠ ""))

/-- The parts of a select, written one after the other. -/
def selectExpanded (isDistinct : Bool) (cs : List (Clause Nested)) : Writer String := do
  let cs := if anyVisible cs "select" t.engine then cs else cs ++ [allColumns]
  let window ← lift (windowOf t cs)
  let mode ← lift (lockOf t cs)
  let parts ← [
    aggregatePart t window isDistinct cs,
    columnsPart t window isDistinct cs,
    fromPart t cs,
    joinPart t cs,
    wherePart t cs,
    groupPart t cs,
    havingPart t cs,
    orderPart t cs].mapM id
  let limit ← windowPart (limit t.dialect) window
  let offset ← windowPart (offset t.dialect) window
  let unions ← unionPart t cs
  let lock := (mode.bind t.dialect.lock).getD ""
  return sentence (parts ++ [limit.getD "", offset.getD "", unions, lock])

def select (isDistinct : Bool) (cs : List (Clause Nested)) : Writer String := do
  let cs ← lift (expandPaths t cs)
  selectExpanded t isDistinct cs

def changedTable (change : Change) (cs : List (Clause Nested)) : Writer String :=
  match effectiveItem cs "from" t.engine with
  | none => throw (.missingTarget change)
  | some (.table (.named name)) => return t.dialect.identifier name
  | some body => throw (.invalidTarget change body.kind)

def insert (cs : List (Clause Nested)) : Writer String := do
  let target ← changedTable t .insert cs
  match effectiveItem cs "insert" t.engine with
  | some (.insert (.row columns values)) =>
    lift (Sql.checkRow .insert columns values)
    let values ← bindAll t.dialect values
    return "INSERT INTO " ++ target ++ " (" ++ t.dialect.identifiers columns ++ ") VALUES " ++
      paren values
  | some (.insert (.rows columns query)) =>
    let list := if columns.isEmpty then "" else "(" ++ t.dialect.identifiers columns ++ ") "
    let sql ← query.select
    return "INSERT INTO " ++ target ++ " " ++ list ++ sql
  | _ => throw (.noValues .insert)

def whereSuffix (cs : List (Clause Nested)) : Writer String := do
  let sql ← wherePart t cs
  return if sql = "" then "" else " " ++ sql

def assignment (p : String × Bound) : Writer String := do
  let value ← bound t.dialect p.2
  return t.dialect.identifier p.1 ++ " = " ++ value

def update (cs : List (Clause Nested)) : Writer String := do
  let target ← changedTable t .update cs
  match effectiveItem cs "update" t.engine with
  | some (.insert (.row columns values)) =>
    lift (Sql.checkRow .update columns values)
    let assignments ← (columns.zip values).mapM (assignment t)
    let filter ← whereSuffix t cs
    return "UPDATE " ++ target ++ " SET " ++ String.intercalate ", " assignments ++ filter
  | _ => throw (.noValues .update)

def delete (cs : List (Clause Nested)) : Writer String := do
  let target ← changedTable t .delete cs
  let filter ← whereSuffix t cs
  return "DELETE FROM " ++ target ++ filter

def statement (b : Block Nested) : Writer String := do
  let ctes ← withList t.dialect b.clauses
  let sql ←
    match b.method with
    | .change .insert => insert t b.clauses
    | .change .update => update t b.clauses
    | .change .delete => delete t b.clauses
    | .select => select t b.isDistinct b.clauses
  return ctes ++ sql

end Statements

end Shared

/-- The run that writes a query as a nested one: as a select, with the binder that it is given. -/
def Query.nested (t : Target) : Query → Nested :=
  Query.fold fun b => ⟨b.aliasName, Shared.select t b.isDistinct b.clauses⟩

/-- The run that writes the statement of a query. -/
def Query.write (t : Target) (q : Query) : Writer String :=
  Shared.statement t (q.block.map (Query.nested t))

end PolySql
