import PolySql.Query.Induction
import PolySql.Query.Kind
import PolySql.Query.PathJoin

/-!
Queries restricted to one engine: without the clauses that the engine does not see, at any depth.
Main statements: lookup finds the same clauses, restricted, and what is restricted does not depend
on the results of nested queries.
-/

namespace PolySql

section Restrict

variable {Q : Type} (engine : String)

/-- The members of a list that the engine sees, each put through `f`. -/
def seenBy {α : Type} (f : α → α) (cs : List (Scoped α)) : List (Scoped α) :=
  (cs.filter (·.appliesTo engine)).map (Scoped.map f)

mutual

def Condition.restrict : Condition Q → Condition Q
  | .test flags t => .test flags t
  | .group flags members => .group flags (Condition.restrictAll members)

def Condition.restrictAll : List (Scoped (Condition Q)) → List (Scoped (Condition Q))
  | [] => []
  | ⟨component, e, c⟩ :: rest =>
    if e == wildcard || e == engine then ⟨component, e, c.restrict⟩ :: Condition.restrictAll rest
    else Condition.restrictAll rest

end

/-- The table of a join has no say: only the scope of the clause that holds the join counts. -/
def JoinClause.restrict : JoinClause Q → JoinClause Q
  | .explicit j => .explicit { j with conditions := Condition.restrictAll engine j.conditions }
  | j => j

def Body.restrict : Body Q → Body Q
  | .join j => .join (j.restrict engine)
  | .condition c => .condition (c.restrict engine)
  | b => b

def Block.restrict (b : Block Q) : Block Q :=
  { b with clauses := seenBy engine (Body.restrict engine) b.clauses }

end Restrict

/-- A query and the queries nested in it, restricted to the engine. -/
def Query.restrict (engine : String) : Query → Query :=
  Query.fold fun b => .ofBlock (b.restrict engine)

section Lookup

variable {α : Type} {f : α → α} (cs : List (Scoped α)) (component engine : String)

theorem visible_seenBy :
    visible (seenBy engine f cs) component engine =
      (visible cs component engine).map (Scoped.map f) := by
  rw [seenBy, visible_map]
  congr 1
  simp only [visible, List.filter_filter, Bool.and_assoc, Bool.and_self]

theorem effectiveItem_seenBy :
    effectiveItem (seenBy engine f cs) component engine =
      (effectiveItem cs component engine).map f := by
  simp only [effectiveItem, effective, visible_seenBy, List.find?_map, List.head?_map,
    Option.map_or, Option.map_map]
  rfl

theorem anyVisible_seenBy :
    anyVisible (seenBy engine f cs) component engine = anyVisible cs component engine := by
  rw [Bool.eq_iff_iff, anyVisible_iff, anyVisible_iff, visible_seenBy, ne_eq, ne_eq,
    List.map_eq_nil_iff]

end Lookup

section Same

variable {Q : Type} (engine : String)

@[simp] theorem Condition.flags_restrict (c : Condition Q) :
    (c.restrict engine).flags = c.flags := by
  cases c <;> simp only [Condition.restrict, Condition.flags]

@[simp] theorem Condition.kind_restrict (c : Condition Q) :
    (c.restrict engine).kind = c.kind := by
  cases c <;> simp only [Condition.restrict, Condition.kind]

@[simp] theorem JoinClause.kind_restrict (j : JoinClause Q) :
    (j.restrict engine).kind = j.kind := by
  cases j <;> rfl

theorem Body.refName_restrict [Aliased Q] (b : Body Q) :
    (b.restrict engine).refName = b.refName := by
  cases b <;> rfl

end Same

section Map

variable {Q R : Type} (engine : String) (f : Q → R)

theorem Condition.restrictAll_eq (members : List (Scoped (Condition Q))) :
    Condition.restrictAll engine members =
      seenBy engine (Condition.restrict engine) members := by
  induction members with
  | nil => simp [Condition.restrictAll, seenBy]
  | cons c rest ih =>
    obtain ⟨component, e, c⟩ := c
    simp only [Condition.restrictAll, ih, seenBy, List.filter_cons, Scoped.appliesTo]
    split <;> rfl

theorem Condition.map_restrict (c : Condition Q) :
    (c.restrict engine).map f = (c.map f).restrict engine := by
  induction c using Condition.induction with
  | test flags t => simp only [Condition.restrict, Condition.map]
  | group flags members ih =>
    simp only [Condition.restrict, Condition.map, Condition.mapMembers_eq,
      Condition.restrictAll_eq, seenBy, List.filter_map, List.map_map]
    congr 1
    apply List.map_congr_left
    intro c hc
    have hitem := ih c (List.mem_filter.mp hc).1
    simp only [Function.comp_apply, Scoped.map, hitem]

theorem Condition.map_restrictAll (members : List (Scoped (Condition Q))) :
    (Condition.restrictAll engine members).map (Scoped.map (Condition.map f)) =
      Condition.restrictAll engine (members.map (Scoped.map (Condition.map f))) := by
  have h := Condition.map_restrict engine f (.group ⟨false, false⟩ members)
  simp only [Condition.restrict, Condition.map, Condition.mapMembers_eq] at h
  exact (Condition.group.inj h).2

theorem Body.map_restrict (b : Body Q) :
    (b.restrict engine).map f = (b.map f).restrict engine := by
  cases b with
  | join j =>
    cases j with
    | explicit j =>
      simp only [Body.restrict, Body.map, JoinClause.restrict, JoinClause.map, Join.map,
        Condition.map_restrictAll]
    | _ => rfl
  | condition c => exact congrArg Body.condition (Condition.map_restrict engine f c)
  | _ => rfl

theorem Block.map_restrict (b : Block Q) :
    (b.restrict engine).map f = (b.map f).restrict engine := by
  simp only [Block.restrict, Block.map, seenBy, List.filter_map, List.map_map]
  congr 1
  apply List.map_congr_left
  intro c _
  have hitem := Body.map_restrict engine f c.item
  simp only [Function.comp_apply, Scoped.map, hitem]

end Map

section Compose

variable {Q R S : Type} {f : Q → R} {g : R → S} {k : Q → S}

theorem Test.map_map {t : Test Q} (h : ∀ q ∈ t.nested, g (f q) = k q) :
    (t.map f).map g = t.map k := by
  cases t <;> simp_all [Test.map, Test.nested]

theorem Condition.map_map {c : Condition Q} (h : ∀ q ∈ c.nested, g (f q) = k q) :
    (c.map f).map g = c.map k := by
  induction c using Condition.induction with
  | test flags t =>
    simp only [Condition.nested] at h
    simp only [Condition.map, Test.map_map h]
  | group flags members ih =>
    simp only [Condition.nested, Condition.mem_nestedMembers] at h
    simp only [Condition.map, Condition.mapMembers_eq, List.map_map]
    congr 1
    apply List.map_congr_left
    intro c hc
    have hitem := ih c hc fun q hq => h q ⟨c, hc, hq⟩
    simp only [Function.comp_apply, Scoped.map, hitem]

theorem Table.map_map {t : Table Q} (h : ∀ q ∈ t.nested, g (f q) = k q) :
    (t.map f).map g = t.map k := by
  cases t <;> simp_all [Table.map, Table.nested]

theorem JoinClause.map_map {j : JoinClause Q} (h : ∀ q ∈ j.nested, g (f q) = k q) :
    (j.map f).map g = j.map k := by
  cases j with
  | explicit j =>
    simp only [JoinClause.nested, List.mem_append, Condition.mem_nestedMembers] at h
    have htable := Table.map_map fun q hq => h q (.inl hq)
    have hon :
        (j.conditions.map (Scoped.map (Condition.map f))).map (Scoped.map (Condition.map g)) =
          j.conditions.map (Scoped.map (Condition.map k)) := by
      rw [List.map_map]
      apply List.map_congr_left
      intro c hc
      have hitem := Condition.map_map fun q hq => h q (.inr ⟨c, hc, hq⟩)
      simp only [Function.comp_apply, Scoped.map, hitem]
    simp only [JoinClause.map, Join.map, Scoped.map, htable] at hon ⊢
    rw [hon]
  | _ => rfl

theorem Body.map_map {b : Body Q} (h : ∀ q ∈ b.nested, g (f q) = k q) :
    (b.map f).map g = b.map k := by
  cases b with
  | table t => exact congrArg Body.table (Table.map_map h)
  | join j => exact congrArg Body.join (JoinClause.map_map h)
  | column c => cases c <;> simp_all [Body.map, Column.map, Body.nested, Column.nested]
  | insert i => cases i <;> simp_all [Body.map, Insert.map, Body.nested, Insert.nested]
  | union u => cases u <;> simp_all [Body.map, Union.map, Body.nested, Union.nested]
  | condition c => exact congrArg Body.condition (Condition.map_map h)
  | _ => rfl

theorem Block.map_map {b : Block Q} (h : ∀ q ∈ b.nested, g (f q) = k q) :
    (b.map f).map g = b.map k := by
  simp only [Block.nested, List.mem_flatMap] at h
  simp only [Block.map, List.map_map]
  congr 1
  apply List.map_congr_left
  intro c hc
  have hitem := Body.map_map fun q hq => h q ⟨c, hc, hq⟩
  simp only [Function.comp_apply, Scoped.map, hitem]

end Compose

end PolySql
