import PolySql.Query.Basic

/-!
The queries nested in a block, and induction on conditions and on queries: what holds of a block
whenever it holds of the queries nested in it holds of every query.
-/

namespace PolySql

section Nested

variable {Q : Type}

def Table.nested : Table Q → List Q
  | .derived query _ => [query]
  | _ => []

def Test.nested : Test Q → List Q
  | .subquery _ _ query | .oneOfQuery _ query | .nonempty query => [query]
  | _ => []

mutual

def Condition.nested : Condition Q → List Q
  | .test _ t => t.nested
  | .group _ members => Condition.nestedMembers members

def Condition.nestedMembers : List (Scoped (Condition Q)) → List Q
  | [] => []
  | ⟨_, _, c⟩ :: rest => c.nested ++ Condition.nestedMembers rest

end

def JoinClause.nested : JoinClause Q → List Q
  | .explicit j => j.table.item.nested ++ Condition.nestedMembers j.conditions
  | _ => []

def Column.nested : Column Q → List Q
  | .subquery query => [query]
  | _ => []

def Insert.nested : Insert Q → List Q
  | .rows _ query => [query]
  | _ => []

def Union.nested : Union Q → List Q
  | .operand _ _ query => [query]
  | _ => []

def Body.nested : Body Q → List Q
  | .table t => t.nested
  | .join j => j.nested
  | .column c => c.nested
  | .insert i => i.nested
  | .union u => u.nested
  | .condition c => c.nested
  | _ => []

def Block.nested (b : Block Q) : List Q := b.clauses.flatMap fun c => c.item.nested

theorem Condition.mem_nestedMembers {members : List (Scoped (Condition Q))} {q : Q} :
    q ∈ Condition.nestedMembers members ↔ ∃ c ∈ members, q ∈ c.item.nested := by
  induction members with
  | nil => simp [Condition.nestedMembers]
  | cons c rest ih => simp [Condition.nestedMembers, ih]

theorem Condition.nestedMembers_eq (members : List (Scoped (Condition Q))) :
    Condition.nestedMembers members = members.flatMap fun c => c.item.nested := by
  induction members with
  | nil => rfl
  | cons c rest ih => rw [Condition.nestedMembers, ih, List.flatMap_cons]

section Condition

set_option linter.unusedSectionVars false

variable {P : Condition Q → Prop} (test : ∀ flags t, P (.test flags t))
  (group : ∀ flags members, (∀ c ∈ members, P c.item) → P (.group flags members))

include test group

mutual

/-- What holds of tests, and of groups of members that it holds of, holds of every condition. -/
theorem Condition.induction : ∀ c : Condition Q, P c
  | .test flags t => test flags t
  | .group flags members => group flags members (Condition.induction_members members)

theorem Condition.induction_members : ∀ (members : List (Scoped (Condition Q))),
    ∀ c ∈ members, P c.item
  | [] => by simp
  | ⟨component, engine, c⟩ :: rest => by
    simp only [List.mem_cons]
    rintro d (rfl | h)
    · exact Condition.induction c
    · exact Condition.induction_members rest d h

end

end Condition

section Map

variable {R : Type} (f : Q → R)

theorem Test.nested_map (t : Test Q) : (t.map f).nested = t.nested.map f := by cases t <;> rfl

theorem Table.nested_map (a : Table Q) : (a.map f).nested = a.nested.map f := by cases a <;> rfl

end Map

end Nested

namespace Query

set_option linter.unusedSectionVars false

variable {P : Query → Prop} (step : ∀ b : Block Query, (∀ q ∈ b.nested, P q) → P (.ofBlock b))

include step

mutual

theorem induction : ∀ q : Query, P q
  | .ofBlock ⟨clauses, method, isDistinct, aliasName⟩ =>
    step ⟨clauses, method, isDistinct, aliasName⟩ (nested_clauses clauses)

theorem nested_clauses : ∀ (cs : List (Scoped (Body Query))),
    ∀ q ∈ cs.flatMap (fun c => c.item.nested), P q
  | [] => by simp
  | ⟨component, engine, b⟩ :: rest => by
    simp only [List.flatMap_cons, List.mem_append]
    rintro q (h | h)
    · exact nested_body b q h
    · exact nested_clauses rest q h

theorem nested_body : ∀ (b : Body Query), ∀ q ∈ b.nested, P q
  | .table t => nested_table t
  | .join j => nested_join j
  | .column c => nested_column c
  | .insert i => nested_insert i
  | .union u => nested_union u
  | .condition c => nested_condition c
  | .base | .order _ | .aggregate _ | .window _ | .lock _ => by simp [Body.nested]

theorem nested_table : ∀ (t : Table Query), ∀ q ∈ t.nested, P q
  | .derived query _ => by simpa [Table.nested] using induction query
  | .base | .named _ | .verbatim _ _ => by simp [Table.nested]

theorem nested_join : ∀ (j : JoinClause Query), ∀ q ∈ j.nested, P q
  | .explicit ⟨type, ⟨component, engine, t⟩, conditions⟩ => by
    simp only [JoinClause.nested, List.mem_append]
    rintro q (h | h)
    · exact nested_table t q h
    · exact nested_members conditions q h
  | .base | .path _ => by simp [JoinClause.nested]

theorem nested_column : ∀ (c : Column Query), ∀ q ∈ c.nested, P q
  | .subquery query => by simpa [Column.nested] using induction query
  | .base | .named _ | .verbatim _ => by simp [Column.nested]

theorem nested_insert : ∀ (i : Insert Query), ∀ q ∈ i.nested, P q
  | .rows _ query => by simpa [Insert.nested] using induction query
  | .base | .row _ _ => by simp [Insert.nested]

theorem nested_union : ∀ (u : Union Query), ∀ q ∈ u.nested, P q
  | .operand _ _ query => by simpa [Union.nested] using induction query
  | .base | .verbatim _ => by simp [Union.nested]

theorem nested_members : ∀ (members : List (Scoped (Condition Query))),
    ∀ q ∈ Condition.nestedMembers members, P q
  | [] => by simp [Condition.nestedMembers]
  | ⟨component, engine, c⟩ :: rest => by
    simp only [Condition.nestedMembers, List.mem_append]
    rintro q (h | h)
    · exact nested_condition c q h
    · exact nested_members rest q h

theorem nested_condition : ∀ (c : Condition Query), ∀ q ∈ c.nested, P q
  | .test _ t => by
    simp only [Condition.nested]
    exact nested_test t
  | .group _ members => by
    simp only [Condition.nested]
    exact nested_members members

theorem nested_test : ∀ (t : Test Query), ∀ q ∈ t.nested, P q
  | .subquery _ _ query => by simpa [Test.nested] using induction query
  | .oneOfQuery _ query => by simpa [Test.nested] using induction query
  | .nonempty query => by simpa [Test.nested] using induction query
  | .base | .verbatim _ | .compare _ _ _ | .pattern _ _ _ _ | .datePart _ _ _ _
  | .columns _ _ _ | .oneOf _ _ | .between _ _ _ | .isNull _ | .isTrue _ _ => by
    simp [Test.nested]

end

end Query

end PolySql
