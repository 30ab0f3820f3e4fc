import PolySql.Proofs.Alike.Query
import PolySql.Proofs.Alphabet

/-!
What queries contain: texts, verbatim SQL, and values that may be bound. `Within p` says that all of
it is allowed by `p`; verbatim SQL may also hold marks.
-/

namespace PolySql

open Text

/-- The characters that texts may hold, and the values that may be bound. -/
structure Content where
  letter : Char → Prop
  value : Json → Prop

/-- The letters of verbatim SQL: those of texts, and the mark of a binding. -/
def Content.sqlLetter (p : Content) (c : Char) : Prop := c = '?' ∨ p.letter c

variable (p : Content)

def Bound.Within : Bound → Prop
  | .value v => p.value v
  | .raw sql => Over p.letter sql

def Verbatim.Within (sql : Verbatim) : Prop :=
  Over p.sqlLetter sql.expression ∧ ∀ b ∈ sql.bindings, b.Within p

def Window.Within (w : Window) : Prop :=
  (∀ n ∈ w.take?, p.value (.int n)) ∧ ∀ n ∈ w.skip?, p.value (.int n)

/-- Allowed tables get allowed keys. -/
def KeyGenerator.Within (g : KeyGenerator) : Prop :=
  ∀ table, Over p.letter table → Over p.letter (g.key table)

def PathJoin.Within (j : PathJoin) : Prop :=
  Over p.letter j.expression ∧ (∀ s ∈ j.sourceKeySuffix, Over p.letter s) ∧
    (∀ s ∈ j.targetKey, Over p.letter s) ∧ (∀ g ∈ j.sourceKeyGenerator, g.Within p) ∧
      ∀ g ∈ j.targetKeyGenerator, g.Within p

def OrderItem.Within : OrderItem → Prop
  | .base => True
  | .column name _ => Over p.letter name
  | .verbatim sql => sql.Within p
  | .random seed => Over p.letter seed

def Aggregate.Within (a : Aggregate) : Prop :=
  Over p.letter a.function ∧ (∀ s ∈ a.columns, Over p.letter s) ∧
    ∀ s ∈ a.aliasName, Over p.letter s

section Clauses

variable {Q : Type}

def Test.Within : Test Q → Prop
  | .base | .nonempty _ => True
  | .verbatim sql => sql.Within p
  | .compare column operator value =>
    Over p.letter column ∧ Over p.letter operator ∧ value.Within p
  | .pattern column operator value caseSensitive =>
    Over p.letter column ∧ Over p.letter operator ∧
      p.value (.str (patternText operator value caseSensitive))
  | .datePart column part operator value =>
    Over p.letter column ∧ Over p.letter part ∧ Over p.letter operator ∧ value.Within p
  | .columns first operator second =>
    Over p.letter first ∧ Over p.letter operator ∧ Over p.letter second
  | .subquery column operator _ => Over p.letter column ∧ Over p.letter operator
  | .oneOf column values => Over p.letter column ∧ ∀ b ∈ values, b.Within p
  | .between column lower higher => Over p.letter column ∧ lower.Within p ∧ higher.Within p
  | .oneOfQuery column _ | .isNull column | .isTrue column _ => Over p.letter column

mutual

def Condition.Within : Condition Q → Prop
  | .test _ t => t.Within p
  | .group _ members => Condition.AllWithin members

def Condition.AllWithin : List (Scoped (Condition Q)) → Prop
  | [] => True
  | ⟨_, _, c⟩ :: rest => c.Within ∧ Condition.AllWithin rest

end

def Insert.Within : Insert Q → Prop
  | .base => True
  | .row columns values => (∀ s ∈ columns, Over p.letter s) ∧ ∀ b ∈ values, b.Within p
  | .rows columns _ => ∀ s ∈ columns, Over p.letter s

def Union.Within : Union Q → Prop
  | .base | .operand _ _ _ => True
  | .verbatim sql => sql.Within p

variable [Aliased Q]

/-- A derived table writes the alias of its query where it has none of its own. -/
def Table.Within : Table Q → Prop
  | .base => True
  | .named table => Over p.letter table
  | .verbatim sql aliasName => sql.Within p ∧ ∀ s ∈ aliasName, Over p.letter s
  | .derived query aliasName =>
    (∀ s ∈ aliasName, Over p.letter s) ∧ ∀ s ∈ aliasName? query, Over p.letter s

def JoinClause.Within : JoinClause Q → Prop
  | .base => True
  | .explicit j => j.table.item.Within p ∧ Condition.AllWithin p j.conditions
  | .path j => j.Within p

def Column.Within : Column Q → Prop
  | .base => True
  | .named name => Over p.letter name
  | .verbatim sql => sql.Within p
  | .subquery query => ∀ s ∈ aliasName? query, Over p.letter s

def Body.Within : Body Q → Prop
  | .table t => t.Within p
  | .join j => j.Within p
  | .column c => c.Within p
  | .order item => item.Within p
  | .aggregate a => a.Within p
  | .insert i => i.Within p
  | .window w => w.Within p
  | .union u => u.Within p
  | .condition c => c.Within p
  | .base | .lock _ => True

def Block.Within (b : Block Q) : Prop := ∀ c ∈ b.clauses, c.item.Within p

end Clauses

inductive Query.Within : Query → Prop
  | ofBlock {b : Block Query} (own : b.Within p) (nested : ∀ q ∈ b.nested, Query.Within q) :
    Query.Within (.ofBlock b)

theorem Condition.allWithin_iff {Q : Type} {p : Content} {members : List (Scoped (Condition Q))} :
    Condition.AllWithin p members ↔ ∀ c ∈ members, c.item.Within p := by
  induction members with
  | nil => simp [Condition.AllWithin]
  | cons c rest ih => simp [Condition.AllWithin, ih]

section Map

variable {Q R : Type} {p : Content} {f : Q → R}

theorem Test.within_map (t : Test Q) : (t.map f).Within p ↔ t.Within p := by
  cases t <;> rfl

theorem Condition.within_map (c : Condition Q) : (c.map f).Within p ↔ c.Within p := by
  induction c using Condition.induction with
  | test flags t => simp only [Condition.map, Condition.Within, Test.within_map]
  | group flags members ih =>
    simp only [Condition.map, Condition.mapMembers_eq, Condition.Within, Condition.allWithin_iff,
      List.forall_mem_map]
    exact forall₂_congr ih

variable [Aliased Q] [Aliased R] (hf : ∀ q, aliasName? (f q) = aliasName? q)

include hf

theorem Table.within_map (t : Table Q) : (t.map f).Within p ↔ t.Within p := by
  cases t with
  | derived query aliasName => simp only [Table.map, Table.Within, hf]
  | _ => rfl

theorem JoinClause.within_map (j : JoinClause Q) : (j.map f).Within p ↔ j.Within p := by
  cases j with
  | explicit j =>
    have htable := Table.within_map (p := p) hf j.table.item
    have hmembers : ∀ c : Scoped (Condition Q),
        (Scoped.map (Condition.map f) c).item.Within p ↔ c.item.Within p :=
      fun c => Condition.within_map c.item
    simp only [JoinClause.map, Join.map, JoinClause.Within, Condition.allWithin_iff,
      List.forall_mem_map, hmembers]
    exact and_congr_left fun _ => htable
  | _ => rfl

theorem Column.within_map (c : Column Q) : (c.map f).Within p ↔ c.Within p := by
  cases c with
  | subquery query => simp only [Column.map, Column.Within, hf]
  | _ => rfl

theorem Body.within_map (b : Body Q) : (b.map f).Within p ↔ b.Within p := by
  cases b with
  | table t => exact Table.within_map hf t
  | join j => exact JoinClause.within_map hf j
  | column c => exact Column.within_map hf c
  | insert i => cases i <;> rfl
  | union u => cases u <;> rfl
  | condition c => exact Condition.within_map c
  | _ => rfl

theorem Block.within_map (b : Block Q) : (b.map f).Within p ↔ b.Within p := by
  simp only [Block.Within, Block.map, List.forall_mem_map]
  exact forall₂_congr fun c _ => Body.within_map hf c.item

end Map

/-- Any character, and the values of a set. -/
def Content.ofValues (V : Json → Prop) : Content := ⟨fun _ => True, V⟩

/-- Any character, and any value. -/
def Content.all : Content := .ofValues fun _ => True

section All

theorem over_all (s : String) : Over Content.all.letter s := fun _ _ => trivial

theorem Bound.within_all (b : Bound) : b.Within .all := by
  cases b with
  | value v => trivial
  | raw sql => exact over_all sql

theorem Verbatim.within_all (sql : Verbatim) : sql.Within .all :=
  ⟨fun _ _ => .inr trivial, fun b _ => b.within_all⟩

variable {Q : Type}

theorem Test.within_all (t : Test Q) : t.Within .all := by
  cases t with
  | verbatim sql => exact sql.within_all
  | oneOf column values => exact ⟨over_all column, fun b _ => b.within_all⟩
  | pattern column operator value caseSensitive => exact ⟨over_all _, over_all _, trivial⟩
  | _ => simp [Test.Within, over_all, Bound.within_all]

theorem Condition.within_all (c : Condition Q) : c.Within .all := by
  induction c using Condition.induction with
  | test flags t =>
    simp only [Condition.Within]
    exact t.within_all
  | group flags members ih =>
    simp only [Condition.Within, Condition.allWithin_iff]
    exact ih

theorem PathJoin.within_all (j : PathJoin) : j.Within .all :=
  ⟨over_all _, fun s _ => over_all s, fun s _ => over_all s, fun _ _ _ _ => over_all _,
    fun _ _ _ _ => over_all _⟩

variable [Aliased Q]

theorem Table.within_all (t : Table Q) : t.Within .all := by
  cases t <;> simp [Table.Within, over_all, Verbatim.within_all]

theorem Body.within_all (b : Body Q) : b.Within .all := by
  cases b with
  | table t => exact t.within_all
  | join j =>
    cases j with
    | base => trivial
    | explicit j =>
      exact ⟨j.table.item.within_all,
        Condition.allWithin_iff.mpr fun c _ => c.item.within_all⟩
    | path j => exact j.within_all
  | column c => cases c <;> simp [Body.Within, Column.Within, over_all, Verbatim.within_all]
  | order item => cases item <;> simp [Body.Within, OrderItem.Within, over_all, Verbatim.within_all]
  | aggregate a => simp [Body.Within, Aggregate.Within, over_all]
  | insert i => cases i <;> simp [Body.Within, Insert.Within, over_all, Bound.within_all]
  | window w => exact ⟨fun _ _ => trivial, fun _ _ => trivial⟩
  | union u => cases u <;> simp [Body.Within, Union.Within, Verbatim.within_all]
  | condition c => exact c.within_all
  | _ => trivial

end All

theorem Query.within_all (q : Query) : q.Within .all := by
  induction q using Query.induction with
  | step b nested => exact .ofBlock (fun c _ => c.item.within_all) nested

end PolySql
