import PolySql.Query.Clause

/-!
The kind of a clause: the tag that models carry and that messages name.
-/

namespace PolySql

variable {Q : Type}

def Table.kind : Table Q → String
  | .base => "AbstractFrom"
  | .named _ => "FromClause"
  | .verbatim _ _ => "RawFromClause"
  | .derived _ _ => "QueryFromClause"

def JoinClause.kind : JoinClause Q → String
  | .base => "AbstractJoin"
  | .explicit _ => "JoinClause"
  | .path _ => "DeepJoinClause"

def Column.kind : Column Q → String
  | .base => "AbstractColumn"
  | .named _ => "Column"
  | .verbatim _ => "RawColumn"
  | .subquery _ => "QueryColumn"

def OrderItem.kind : OrderItem → String
  | .base => "AbstractOrderBy"
  | .column _ _ => "OrderBy"
  | .verbatim _ => "RawOrderBy"
  | .random _ => "RandomOrderBy"

def Insert.kind : Insert Q → String
  | .base => "AbstractInsertClause"
  | .row _ _ => "InsertClause"
  | .rows _ _ => "InsertQueryClause"

def Union.kind : Union Q → String
  | .base => "AbstractUnion"
  | .operand _ _ _ => "UnionClause"
  | .verbatim _ => "RawUnionClause"

def Test.kind : Test Q → String
  | .base => "AbstractCondition"
  | .verbatim _ => "RawCondition"
  | .compare _ _ _ => "BasicCondition"
  | .pattern _ _ _ _ => "BasicStringCondition"
  | .datePart _ _ _ _ => "BasicDateCondition"
  | .columns _ _ _ => "TwoColumnsCondition"
  | .subquery _ _ _ => "SubQueryCondition"
  | .oneOf _ _ => "InCondition"
  | .oneOfQuery _ _ => "InQueryCondition"
  | .between _ _ _ => "BetweenCondition"
  | .isNull _ => "NullCondition"
  | .nonempty _ => "ExistsCondition"
  | .isTrue _ _ => "BooleanCondition"

def Condition.kind : Condition Q → String
  | .test _ t => t.kind
  | .group _ _ => "NestedCondition"

def Body.kind : Body Q → String
  | .base => "AbstractClause"
  | .table t => t.kind
  | .join j => j.kind
  | .column c => c.kind
  | .order item => item.kind
  | .aggregate _ => "AggregateClause"
  | .insert i => i.kind
  | .window _ => "LimitOffset"
  | .union u => u.kind
  | .lock _ => "LockClause"
  | .condition c => c.kind

theorem Body.kind_map {R : Type} (f : Q → R) (b : Body Q) : (b.map f).kind = b.kind := by
  cases b with
  | table t => cases t <;> rfl
  | join j => cases j <;> rfl
  | column c => cases c <;> rfl
  | insert i => cases i <;> rfl
  | union u => cases u <;> rfl
  | condition c =>
    cases c with
    | test flags t => cases t <;> simp [Body.map, Condition.map, Test.map, kind, Condition.kind,
        Test.kind]
    | group flags members => simp [Body.map, Condition.map, kind, Condition.kind]
  | _ => rfl

end PolySql
