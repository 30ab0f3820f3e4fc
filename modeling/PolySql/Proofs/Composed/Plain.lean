import PolySql.Proofs.Composed.Basic
import PolySql.Proofs.Expansion
import PolySql.Query.Induction

/-!
Queries without SQL of their own: they hold no verbatim SQL, bind all their values, and give names
where names are expected. Only operators, functions, date parts and seeds are taken as they stand,
and these are words over an alphabet.
-/

namespace PolySql

open Text

/-- The position is bound, not filled by SQL text. -/
def Bound.IsValue : Bound → Prop
  | .value _ => True
  | .raw _ => False

variable (p : Char → Prop)

def OrderItem.Plain : OrderItem → Prop
  | .base => True
  | .column name _ => IsName name
  | .verbatim _ => False
  | .random seed => Over p seed

def Aggregate.Plain (a : Aggregate) : Prop := Over p a.function ∧ ∀ s ∈ a.columns, IsName s

section Clauses

variable {Q : Type}

def Test.Plain : Test Q → Prop
  | .base | .nonempty _ => True
  | .verbatim _ => False
  | .compare column operator value => IsName column ∧ Over p operator ∧ value.IsValue
  | .pattern column operator _ _ => IsName column ∧ Over p operator
  | .datePart column part operator value =>
    IsName column ∧ Over p part ∧ Over p operator ∧ value.IsValue
  | .columns first operator second => IsName first ∧ Over p operator ∧ IsName second
  | .subquery column operator _ => IsName column ∧ Over p operator
  | .oneOf column values => IsName column ∧ ∀ b ∈ values, b.IsValue
  | .between column lower higher => IsName column ∧ lower.IsValue ∧ higher.IsValue
  | .oneOfQuery column _ | .isNull column | .isTrue column _ => IsName column

inductive Condition.Plain : Condition Q → Prop
  | test {flags : Flags} {t : Test Q} (h : t.Plain p) : Condition.Plain (.test flags t)
  | group {flags : Flags} {members : List (Scoped (Condition Q))}
    (h : ∀ c ∈ members, Condition.Plain c.item) : Condition.Plain (.group flags members)

def Table.Plain : Table Q → Prop
  | .base | .derived _ _ => True
  | .named table => IsName table
  | .verbatim _ _ => False

def JoinClause.Plain : JoinClause Q → Prop
  | .base | .path _ => True
  | .explicit j => j.table.item.Plain ∧ ∀ c ∈ j.conditions, c.item.Plain p

def Column.Plain : Column Q → Prop
  | .base | .subquery _ => True
  | .named name => IsName name
  | .verbatim _ => False

def Insert.Plain : Insert Q → Prop
  | .base => True
  | .row columns values => (∀ s ∈ columns, IsName s) ∧ ∀ b ∈ values, b.IsValue
  | .rows columns _ => ∀ s ∈ columns, IsName s

def Union.Plain : Union Q → Prop
  | .base | .operand _ _ _ => True
  | .verbatim _ => False

def Body.Plain : Body Q → Prop
  | .table t => t.Plain
  | .join j => j.Plain p
  | .column c => c.Plain
  | .order item => item.Plain p
  | .aggregate a => a.Plain p
  | .insert i => i.Plain
  | .union u => u.Plain
  | .condition c => c.Plain p
  | .base | .window _ | .lock _ => True

end Clauses

/-- Neither the clauses of a query nor the joins that stand for its path joins have SQL of their
own, and so in the queries nested in it. -/
inductive Query.Plain (t : Target) : Query → Prop
  | ofBlock {b : Block Query} (own : ∀ c ∈ b.clauses, c.item.Plain p)
    (joins : ∀ c ∈ expanded t b.clauses, c.item.Plain p)
    (nested : ∀ q ∈ b.nested, Query.Plain t q) : Query.Plain t (.ofBlock b)

section Map

variable {p} {Q R : Type} (f : Q → R)

theorem Test.Plain.map {t : Test Q} (h : t.Plain p) : (t.map f).Plain p := by
  cases t <;> exact h

theorem Condition.Plain.map {c : Condition Q} (h : c.Plain p) : (c.map f).Plain p := by
  induction h with
  | test h =>
    rw [Condition.map]
    exact .test (h.map f)
  | group _ ih =>
    rw [Condition.map, Condition.mapMembers_eq]
    exact .group (List.forall_mem_map.mpr ih)

theorem Body.Plain.map {b : Body Q} (h : b.Plain p) : (b.map f).Plain p := by
  cases b with
  | table t => cases t <;> exact h
  | column c => cases c <;> exact h
  | insert i => cases i <;> exact h
  | union u => cases u <;> exact h
  | condition c => exact Condition.Plain.map f h
  | join j =>
    cases j with
    | explicit j =>
      obtain ⟨htable, hconditions⟩ := h
      refine ⟨?_, List.forall_mem_map.mpr fun c hc => (hconditions c hc).map f⟩
      show (j.table.item.map f).Plain
      cases hitem : j.table.item <;> rw [hitem] at htable <;> exact htable
    | _ => exact h
  | _ => exact h

end Map

end PolySql
