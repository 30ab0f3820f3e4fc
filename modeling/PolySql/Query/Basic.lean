import PolySql.Query.Clause

/-!
Queries: blocks of clauses whose nested queries are queries again. `Query.fold` replaces every
nested query by its result, innermost first; everything that looks inside nested queries is a fold.
-/

namespace PolySql

/-- A statement that changes rows. -/
inductive Change
  | insert
  | update
  | delete
  deriving DecidableEq

def Change.name : Change → String
  | .insert => "insert"
  | .update => "update"
  | .delete => "delete"

/-- The statement that a query asks for. -/
inductive Method
  | select
  | change (change : Change)
  deriving DecidableEq

def Method.name : Method → String
  | .select => "select"
  | .change c => c.name

/-- A method of any other name is taken as a select. -/
def Method.ofName (name : String) : Method :=
  if name = "insert" then .change .insert
  else if name = "update" then .change .update
  else if name = "delete" then .change .delete
  else .select

/-- One query, up to the queries nested in its clauses. -/
structure Block (Q : Type) where
  clauses : List (Scoped (Body Q))
  method : Method
  isDistinct : Bool
  aliasName : Option String

def Block.map {Q R : Type} (f : Q → R) (b : Block Q) : Block R :=
  ⟨b.clauses.map (Scoped.map (Body.map f)), b.method, b.isDistinct, b.aliasName⟩

inductive Query
  | ofBlock (block : Block Query)

def Query.block : Query → Block Query
  | .ofBlock b => b

/-- Types whose members may carry an alias of their own. -/
class Aliased (Q : Type) where
  aliasName? : Q → Option String

export Aliased (aliasName?)

instance : Aliased Query := ⟨fun q => q.block.aliasName⟩

namespace Query

section Fold

variable {R : Type} (step : Block R → R)

mutual

def fold : Query → R
  | .ofBlock ⟨clauses, method, isDistinct, aliasName⟩ =>
    step ⟨foldClauses clauses, method, isDistinct, aliasName⟩

def foldClauses : List (Scoped (Body Query)) → List (Scoped (Body R))
  | [] => []
  | ⟨component, engine, b⟩ :: rest => ⟨component, engine, foldBody b⟩ :: foldClauses rest

def foldBody : Body Query → Body R
  | .base => .base
  | .table t => .table (foldTable t)
  | .join j => .join (foldJoin j)
  | .column c => .column (foldColumn c)
  | .order item => .order item
  | .aggregate a => .aggregate a
  | .insert i => .insert (foldInsert i)
  | .window w => .window w
  | .union u => .union (foldUnion u)
  | .lock mode => .lock mode
  | .condition c => .condition (foldCondition c)

def foldTable : Table Query → Table R
  | .base => .base
  | .named table => .named table
  | .verbatim sql aliasName => .verbatim sql aliasName
  | .derived query aliasName => .derived (fold query) aliasName

def foldJoin : JoinClause Query → JoinClause R
  | .base => .base
  | .explicit ⟨type, ⟨component, engine, t⟩, conditions⟩ =>
    .explicit ⟨type, ⟨component, engine, foldTable t⟩, foldConditions conditions⟩
  | .path join => .path join

def foldColumn : Column Query → Column R
  | .base => .base
  | .named name => .named name
  | .verbatim sql => .verbatim sql
  | .subquery query => .subquery (fold query)

def foldInsert : Insert Query → Insert R
  | .base => .base
  | .row columns values => .row columns values
  | .rows columns query => .rows columns (fold query)

def foldUnion : Union Query → Union R
  | .base => .base
  | .operand operation all query => .operand operation all (fold query)
  | .verbatim sql => .verbatim sql

def foldConditions : List (Scoped (Condition Query)) → List (Scoped (Condition R))
  | [] => []
  | ⟨component, engine, c⟩ :: rest =>
    ⟨component, engine, foldCondition c⟩ :: foldConditions rest

def foldCondition : Condition Query → Condition R
  | .test flags t => .test flags (foldTest t)
  | .group flags members => .group flags (foldConditions members)

def foldTest : Test Query → Test R
  | .base => .base
  | .verbatim sql => .verbatim sql
  | .compare column operator value => .compare column operator value
  | .pattern column operator value caseSensitive => .pattern column operator value caseSensitive
  | .datePart column part operator value => .datePart column part operator value
  | .columns first operator second => .columns first operator second
  | .subquery column operator query => .subquery column operator (fold query)
  | .oneOf column values => .oneOf column values
  | .oneOfQuery column query => .oneOfQuery column (fold query)
  | .between column lower higher => .between column lower higher
  | .isNull column => .isNull column
  | .nonempty query => .nonempty (fold query)
  | .isTrue column value => .isTrue column value

end

theorem foldTest_eq (t : Test Query) : foldTest step t = t.map (fold step) := by
  cases t <;> rfl

mutual

theorem foldConditions_eq (members : List (Scoped (Condition Query))) :
    foldConditions step members = Condition.mapMembers (fold step) members := by
  match members with
  | [] => rfl
  | ⟨component, engine, c⟩ :: rest =>
    simp only [foldConditions, Condition.mapMembers]
    rw [foldCondition_eq c, foldConditions_eq rest]

theorem foldCondition_eq (c : Condition Query) : foldCondition step c = c.map (fold step) := by
  match c with
  | .test flags t => simp only [foldCondition, Condition.map, foldTest_eq]
  | .group flags members =>
    simp only [foldCondition, Condition.map]
    rw [foldConditions_eq members]

end

theorem foldTable_eq (t : Table Query) : foldTable step t = t.map (fold step) := by
  cases t <;> rfl

theorem foldJoin_eq (j : JoinClause Query) : foldJoin step j = j.map (fold step) := by
  cases j with
  | base => rfl
  | path join => rfl
  | explicit join =>
    cases join
    simp [foldJoin, JoinClause.map, Join.map, Scoped.map, foldTable_eq, foldConditions_eq,
      Condition.mapMembers_eq]

theorem foldColumn_eq (c : Column Query) : foldColumn step c = c.map (fold step) := by
  cases c <;> rfl

theorem foldInsert_eq (i : Insert Query) : foldInsert step i = i.map (fold step) := by
  cases i <;> rfl

theorem foldUnion_eq (u : Union Query) : foldUnion step u = u.map (fold step) := by
  cases u <;> rfl

theorem foldBody_eq (b : Body Query) : foldBody step b = b.map (fold step) := by
  cases b <;> simp [foldBody, Body.map, foldTable_eq, foldJoin_eq, foldColumn_eq, foldInsert_eq,
    foldUnion_eq, foldCondition_eq]

theorem foldClauses_eq (clauses : List (Clause Query)) :
    foldClauses step clauses = clauses.map (Scoped.map (Body.map (fold step))) := by
  induction clauses with
  | nil => rfl
  | cons c rest ih =>
    cases c
    simp [foldClauses, Scoped.map, foldBody_eq, ih]

/-- A fold treats the nested queries first and then the block that holds their results. -/
theorem fold_ofBlock (b : Block Query) :
    fold step (.ofBlock b) = step (b.map (fold step)) := by
  cases b
  simp [fold, Block.map, foldClauses_eq]

end Fold

end Query

end PolySql
