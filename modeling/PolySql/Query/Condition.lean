import PolySql.Json

/-!
Conditions of WHERE, HAVING and ON: single tests and groups, each with its connector and negation.
Tests may hold nested queries; their type is a parameter.
-/

namespace PolySql

/-- Where a clause belongs and which dialect sees it; the engine `*` stands for every dialect. -/
structure Scoped (α : Type) where
  component : String
  engine : String
  item : α

def Scoped.map {α β : Type} (f : α → β) (s : Scoped α) : Scoped β :=
  ⟨s.component, s.engine, f s.item⟩

/-- What stands in a bound position: a value to bind, or SQL text to write in its place. -/
inductive Bound
  | value (v : Json)
  | raw (sql : String)

/-- SQL text with `?` for its bindings and names in square brackets. -/
structure Verbatim where
  expression : String
  bindings : List Bound

/-- The connector to the condition before, and the negation. -/
structure Flags where
  isOr : Bool
  isNot : Bool

inductive Test (Q : Type)
  | base
  | verbatim (sql : Verbatim)
  | compare (column operator : String) (value : Bound)
  | pattern (column operator value : String) (caseSensitive : Bool)
  | datePart (column part operator : String) (value : Bound)
  | columns (first operator second : String)
  | subquery (column operator : String) (query : Q)
  | oneOf (column : String) (values : List Bound)
  | oneOfQuery (column : String) (query : Q)
  | between (column : String) (lower higher : Bound)
  | isNull (column : String)
  | nonempty (query : Q)
  | isTrue (column : String) (value : Bool)

inductive Condition (Q : Type)
  | test (flags : Flags) (test : Test Q)
  | group (flags : Flags) (members : List (Scoped (Condition Q)))

def Condition.flags {Q : Type} : Condition Q → Flags
  | .test flags _ => flags
  | .group flags _ => flags

def Test.map {Q R : Type} (f : Q → R) : Test Q → Test R
  | .base => .base
  | .verbatim sql => .verbatim sql
  | .compare column operator value => .compare column operator value
  | .pattern column operator value caseSensitive => .pattern column operator value caseSensitive
  | .datePart column part operator value => .datePart column part operator value
  | .columns first operator second => .columns first operator second
  | .subquery column operator query => .subquery column operator (f query)
  | .oneOf column values => .oneOf column values
  | .oneOfQuery column query => .oneOfQuery column (f query)
  | .between column lower higher => .between column lower higher
  | .isNull column => .isNull column
  | .nonempty query => .nonempty (f query)
  | .isTrue column value => .isTrue column value

mutual

def Condition.map {Q R : Type} (f : Q → R) : Condition Q → Condition R
  | .test flags t => .test flags (t.map f)
  | .group flags members => .group flags (Condition.mapMembers f members)

def Condition.mapMembers {Q R : Type} (f : Q → R) :
    List (Scoped (Condition Q)) → List (Scoped (Condition R))
  | [] => []
  | ⟨component, engine, c⟩ :: rest =>
    ⟨component, engine, c.map f⟩ :: Condition.mapMembers f rest

end

theorem Condition.mapMembers_eq {Q R : Type} (f : Q → R) (members : List (Scoped (Condition Q))) :
    Condition.mapMembers f members = members.map (Scoped.map (Condition.map f)) := by
  induction members with
  | nil => simp [Condition.mapMembers]
  | cons c rest ih => cases c; simp [Condition.mapMembers, Scoped.map, ih]

@[simp] theorem Condition.flags_map {Q R : Type} (f : Q → R) (c : Condition Q) :
    (c.map f).flags = c.flags := by
  cases c <;> simp [Condition.map, Condition.flags]

end PolySql
