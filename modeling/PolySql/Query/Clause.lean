import PolySql.Query.Condition

/-!
Clauses: what a query lists, one per table, join, column, order item and so on. Every family has a
base member that nothing renders.
-/

namespace PolySql

inductive JoinType
  | inner
  | left
  | right
  | full
  | cross
  deriving DecidableEq

inductive SetOperation
  | union
  | intersect
  | except
  deriving DecidableEq

inductive LockMode
  | update
  | share
  deriving DecidableEq

/-- How a path join names a key after the table that it refers to, and the value that stands for
this rule in a model. -/
structure KeyGenerator where
  key : String → String
  json : Json

inductive Table (Q : Type)
  | base
  | named (table : String)
  | verbatim (sql : Verbatim) (aliasName : Option String)
  | derived (query : Q) (aliasName : Option String)

structure Join (Q : Type) where
  type : JoinType
  table : Scoped (Table Q)
  conditions : List (Scoped (Condition Q))

/-- A dotted path of tables, to be expanded into one join per table. -/
structure PathJoin where
  expression : String
  type : JoinType
  sourceKeySuffix : Option String
  targetKey : Option String
  sourceKeyGenerator : Option KeyGenerator
  targetKeyGenerator : Option KeyGenerator

inductive JoinClause (Q : Type)
  | base
  | explicit (join : Join Q)
  | path (join : PathJoin)

inductive Column (Q : Type)
  | base
  | named (name : String)
  | verbatim (sql : Verbatim)
  | subquery (query : Q)

inductive OrderItem
  | base
  | column (column : String) (ascending : Bool)
  | verbatim (sql : Verbatim)
  | random (seed : String)

structure Aggregate where
  function : String
  columns : List String
  aliasName : Option String

inductive Insert (Q : Type)
  | base
  | row (columns : List String) (values : List Bound)
  | rows (columns : List String) (query : Q)

/-- Rows to take and to skip; only positive numbers count. -/
structure Window where
  limit : Option Int
  offset : Option Int

inductive Union (Q : Type)
  | base
  | operand (operation : SetOperation) (all : Bool) (query : Q)
  | verbatim (sql : Verbatim)

inductive Body (Q : Type)
  | base
  | table (table : Table Q)
  | join (join : JoinClause Q)
  | column (column : Column Q)
  | order (item : OrderItem)
  | aggregate (aggregate : Aggregate)
  | insert (insert : Insert Q)
  | window (window : Window)
  | union (union : Union Q)
  | lock (mode : LockMode)
  | condition (condition : Condition Q)

abbrev Clause (Q : Type) := Scoped (Body Q)

section Map

variable {Q R : Type} (f : Q → R)

def Table.map : Table Q → Table R
  | .base => .base
  | .named table => .named table
  | .verbatim sql aliasName => .verbatim sql aliasName
  | .derived query aliasName => .derived (f query) aliasName

def Join.map (j : Join Q) : Join R :=
  ⟨j.type, j.table.map (Table.map f), j.conditions.map (Scoped.map (Condition.map f))⟩

def JoinClause.map : JoinClause Q → JoinClause R
  | .base => .base
  | .explicit join => .explicit (join.map f)
  | .path join => .path join

def Column.map : Column Q → Column R
  | .base => .base
  | .named name => .named name
  | .verbatim sql => .verbatim sql
  | .subquery query => .subquery (f query)

def Insert.map : Insert Q → Insert R
  | .base => .base
  | .row columns values => .row columns values
  | .rows columns query => .rows columns (f query)

def Union.map : Union Q → Union R
  | .base => .base
  | .operand operation all query => .operand operation all (f query)
  | .verbatim sql => .verbatim sql

def Body.map : Body Q → Body R
  | .base => .base
  | .table t => .table (t.map f)
  | .join j => .join (j.map f)
  | .column c => .column (c.map f)
  | .order item => .order item
  | .aggregate a => .aggregate a
  | .insert i => .insert (i.map f)
  | .window w => .window w
  | .union u => .union (u.map f)
  | .lock mode => .lock mode
  | .condition c => .condition (c.map f)

end Map

end PolySql
