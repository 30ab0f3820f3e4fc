import Mathlib.Data.List.Basic
import PolySql.Dialect.Paging
import PolySql.Query.Induction

/-!
What a query holds at any depth: the engines that its clauses are scoped to, and its windows. Main
statement: they are those of the query itself and those of the queries nested in it.
-/

namespace PolySql

section Nested

variable {Q R : Type} (f : Q → R)

theorem Condition.nested_map (c : Condition Q) : (c.map f).nested = c.nested.map f := by
  induction c using Condition.induction with
  | test flags t => simp only [Condition.map, Condition.nested, Test.nested_map]
  | group flags members ih =>
    simp only [Condition.map, Condition.mapMembers_eq, Condition.nested,
      Condition.nestedMembers_eq, List.flatMap_map, List.map_flatMap]
    exact List.flatMap_congr fun c hc => ih c hc

theorem JoinClause.nested_map (j : JoinClause Q) : (j.map f).nested = j.nested.map f := by
  cases j with
  | explicit j =>
    have hmembers := Condition.nested_map f (.group ⟨false, false⟩ j.conditions)
    simp only [Condition.map, Condition.mapMembers_eq, Condition.nested] at hmembers
    simp only [JoinClause.map, Join.map, Scoped.map, JoinClause.nested, Table.nested_map,
      List.map_append, ← hmembers]
  | _ => rfl

theorem Body.nested_map (b : Body Q) : (b.map f).nested = b.nested.map f := by
  cases b with
  | table a => exact a.nested_map f
  | join j => exact j.nested_map f
  | column c => cases c <;> rfl
  | insert i => cases i <;> rfl
  | union u => cases u <;> rfl
  | condition c => exact c.nested_map f
  | _ => rfl

theorem Block.nested_map (b : Block Q) : (b.map f).nested = b.nested.map f := by
  simp only [Block.nested, Block.map, List.flatMap_map, List.map_flatMap]
  exact List.flatMap_congr fun c _ => c.item.nested_map f

end Nested

section Engines

variable {Q : Type}

mutual

def Condition.engines : Condition Q → List String
  | .test _ _ => []
  | .group _ members => Condition.memberEngines members

def Condition.memberEngines : List (Scoped (Condition Q)) → List String
  | [] => []
  | ⟨_, engine, c⟩ :: rest => engine :: (c.engines ++ Condition.memberEngines rest)

end

/-- The table of a join has no say: only the scope of the clause that holds the join counts. -/
def JoinClause.engines : JoinClause Q → List String
  | .explicit j => Condition.memberEngines j.conditions
  | _ => []

def Body.engines : Body Q → List String
  | .join j => j.engines
  | .condition c => c.engines
  | _ => []

def Body.window? : Body Q → Option Window
  | .window w => some w
  | _ => none

def Block.engines (b : Block Q) : List String :=
  b.clauses.flatMap fun c => c.engine :: c.item.engines

def Block.windows (b : Block Q) : List Window := b.clauses.filterMap (·.item.window?)

theorem Condition.memberEngines_eq (members : List (Scoped (Condition Q))) :
    Condition.memberEngines members = members.flatMap fun c => c.engine :: c.item.engines := by
  induction members with
  | nil => rfl
  | cons c rest ih => rw [Condition.memberEngines, ih, List.flatMap_cons, List.cons_append]

section Map

variable {R : Type} (f : Q → R)

theorem Condition.engines_map (c : Condition Q) : (c.map f).engines = c.engines := by
  induction c using Condition.induction with
  | test flags t => simp only [Condition.map, Condition.engines]
  | group flags members ih =>
    simp only [Condition.map, Condition.mapMembers_eq, Condition.engines,
      Condition.memberEngines_eq, List.flatMap_map]
    exact List.flatMap_congr fun c hc => congrArg (c.engine :: ·) (ih c hc)

theorem Body.engines_map (b : Body Q) : (b.map f).engines = b.engines := by
  cases b with
  | join j =>
    cases j with
    | explicit j =>
      have hmembers := Condition.engines_map f (.group ⟨false, false⟩ j.conditions)
      simp only [Condition.map, Condition.mapMembers_eq, Condition.engines] at hmembers
      exact hmembers
    | _ => rfl
  | condition c => exact c.engines_map f
  | _ => rfl

theorem Body.window?_map (b : Body Q) : (b.map f).window? = b.window? := by cases b <;> rfl

theorem Block.engines_map (b : Block Q) : (b.map f).engines = b.engines := by
  simp only [Block.engines, Block.map, List.flatMap_map]
  exact List.flatMap_congr fun c _ => congrArg (c.engine :: ·) (c.item.engines_map f)

theorem Block.windows_map (b : Block Q) : (b.map f).windows = b.windows := by
  simp only [Block.windows, Block.map, List.filterMap_map]
  exact List.filterMap_congr fun c _ => c.item.window?_map f

end Map

end Engines

namespace Query

/-- What is listed for a query and for the queries nested in it, at any depth. -/
def gather {α : Type} (own : Block (List α) → List α) : Query → List α :=
  Query.fold fun b => own b ++ b.nested.flatten

theorem gather_eq {α : Type} (own : Block (List α) → List α) (q : Query) :
    q.gather own = own (q.block.map (gather own)) ++ q.block.nested.flatMap (gather own) := by
  cases q with
  | ofBlock b =>
    rw [gather, fold_ofBlock, Block.nested_map, List.flatMap]
    rfl

/-- The engines that clauses and conditions are scoped to. -/
def engines : Query → List String := gather Block.engines

def windows : Query → List Window := gather Block.windows

theorem engines_eq (q : Query) : q.engines = q.block.engines ++ q.block.nested.flatMap engines := by
  rw [engines, gather_eq, Block.engines_map]

theorem windows_eq (q : Query) : q.windows = q.block.windows ++ q.block.nested.flatMap windows := by
  rw [windows, gather_eq, Block.windows_map]

variable {p q : Query} (h : p ∈ q.block.nested)

include h

theorem engines_subset : p.engines ⊆ q.engines := by
  rw [engines_eq q]
  exact fun e he => List.mem_append_right _ (List.mem_flatMap.mpr ⟨p, h, he⟩)

theorem windows_subset : p.windows ⊆ q.windows := by
  rw [windows_eq q]
  exact fun w hw => List.mem_append_right _ (List.mem_flatMap.mpr ⟨p, h, hw⟩)

end Query

end PolySql
