import Mathlib.Tactic.MkIffOfInductiveProp
import PolySql.Dialect.Identifier
import PolySql.Proofs.Expansion
import PolySql.Query.Induction

/-!
The queries that can be compiled for a target, told from their clauses alone: which kinds of clause
may stand in which place, and which clauses are looked at. Main statement: what is accepted does not
hang on nested queries but for their aliases and for whether they are accepted themselves.
-/

namespace PolySql

/-- As many marks as bindings, once the marked names are in quotes. -/
def Verbatim.Balanced (d : Dialect) (sql : Verbatim) : Prop :=
  (d.quoteMarkers sql.expression).toList.count '?' = sql.bindings.length

/-- A name that is there and not empty. -/
def Named (name : Option String) : Prop := ∃ s, name = some s ∧ s ≠ ""

def OrderItem.Accepted (d : Dialect) : OrderItem → Prop
  | .base => False
  | .verbatim sql => sql.Balanced d
  | .column _ _ | .random _ => True

section Accepted

variable {Q : Type} (d : Dialect) (ok : Q → Prop)

def Test.Accepted : Test Q → Prop
  | .base => False
  | .verbatim sql => sql.Balanced d
  | .subquery _ _ query | .oneOfQuery _ query | .nonempty query => ok query
  | .compare _ _ _ | .pattern _ _ _ _ | .datePart _ _ _ _ | .columns _ _ _ | .oneOf _ _
  | .between _ _ _ | .isNull _ | .isTrue _ _ => True

mutual

def Condition.Accepted : Condition Q → Prop
  | .test _ t => t.Accepted d ok
  | .group _ members => Condition.AllAccepted members

/-- The members that the dialect sees are accepted. -/
def Condition.AllAccepted : List (Scoped (Condition Q)) → Prop
  | [] => True
  | ⟨_, e, c⟩ :: rest => ((e == wildcard || e == d.name) → c.Accepted) ∧ Condition.AllAccepted rest

end

def Table.Accepted : Table Q → Prop
  | .base => False
  | .named _ => True
  | .verbatim sql _ => sql.Balanced d
  | .derived query _ => ok query

def JoinClause.Accepted : JoinClause Q → Prop
  | .explicit j => j.table.item.Accepted d ok ∧ Condition.AllAccepted d ok j.conditions
  | .base | .path _ => False

def Column.Accepted : Column Q → Prop
  | .base => False
  | .named _ => True
  | .verbatim sql => sql.Balanced d
  | .subquery query => ok query

def Union.Accepted : Union Q → Prop
  | .base => False
  | .operand _ _ query => ok query
  | .verbatim sql => sql.Balanced d

/-- A member of the WITH list needs a name. -/
def Table.AcceptedDefinition [Aliased Q] : Table Q → Prop
  | .verbatim sql aliasName => Named aliasName ∧ sql.Balanced d
  | .derived query aliasName => Named (Table.derived query aliasName).refName ∧ ok query
  | .base | .named _ => False

/-- The clause is of a kind that belongs in its place, and what it holds is accepted. -/
def Body.Accepted [Aliased Q] : Section → Body Q → Prop
  | .table, .table t => t.Accepted d ok
  | .cte, .table t => t.AcceptedDefinition d ok
  | .join, .join j => j.Accepted d ok
  | .column, .column c => c.Accepted d ok
  | .condition, .condition c => c.Accepted d ok
  | .order, .order item => item.Accepted d
  | .union, .union u => u.Accepted d ok
  | .aggregate, .aggregate _ => True
  | .limit, .window _ => True
  | .lock, .lock _ => True
  | _, _ => False

/-- A table that a statement can change. -/
def Body.IsTarget : Body Q → Prop
  | .table (.named _) => True
  | _ => False

/-- A row with as many values as columns. -/
def Body.IsRow : Body Q → Prop
  | .insert (.row columns values) => columns.length = values.length
  | _ => False

/-- What can be inserted: such a row, or the rows of a query. -/
def Body.IsSource : Body Q → Prop
  | .insert (.rows _ query) => ok query
  | b => b.IsRow

end Accepted

section Clauses

variable {Q : Type} [Aliased Q] (t : Target) (ok : Q → Prop) (cs : List (Clause Q))

/-- All clauses of a component that the target sees. -/
def AllAccepted (component : String) (place : Section) : Prop :=
  ∀ c ∈ visible cs component t.engine, c.item.Accepted t.dialect ok place

/-- The effective clause of a component, if there is one. -/
def EffectiveAccepted (component : String) (place : Section) : Prop :=
  ∀ b ∈ effectiveItem cs component t.engine, b.Accepted t.dialect ok place

/-- The clauses of a select, once path joins are expanded. The filter counts only beside a table,
and the columns only where nothing is aggregated. -/
@[mk_iff]
structure Writable : Prop where
  window : EffectiveAccepted t ok cs "limit" .limit
  lock : EffectiveAccepted t ok cs "lock" .lock
  aggregate : EffectiveAccepted t ok cs "aggregate" .aggregate
  columns : visible cs "aggregate" t.engine = [] → AllAccepted t ok cs "select" .column
  table : EffectiveAccepted t ok cs "from" .table
  joins : AllAccepted t ok cs "join" .join
  filter : visible cs "from" t.engine ≠ [] → AllAccepted t ok cs "where" .condition
  groups : AllAccepted t ok cs "group" .column
  having : AllAccepted t ok cs "having" .condition
  order : AllAccepted t ok cs "order" .order
  unions : AllAccepted t ok cs "union" .union

/-- The clauses can be compiled as a select. A path join with tables needs one to start from. -/
@[mk_iff]
structure Selectable : Prop where
  anchored : (∃ j ∈ pathJoins t cs, j.tables ≠ []) → ¬ Baseless t cs
  writable : Writable t ok (expanded t cs)

/-- There is an effective clause of a component, with the property `P`. -/
def HasEffective (component : String) (P : Body Q → Prop) : Prop :=
  ∃ b ∈ effectiveItem cs component t.engine, P b

/-- The block can be compiled as a statement of its method. -/
def Block.WellFormed (b : Block Q) : Prop :=
  AllAccepted t ok b.clauses "cte" .cte ∧
    match b.method with
    | .select => Selectable t ok b.clauses
    | .change .insert =>
      HasEffective t b.clauses "from" Body.IsTarget ∧
        HasEffective t b.clauses "insert" (Body.IsSource ok)
    | .change .update =>
      HasEffective t b.clauses "from" Body.IsTarget ∧
        HasEffective t b.clauses "update" Body.IsRow ∧ AllAccepted t ok b.clauses "where" .condition
    | .change .delete =>
      HasEffective t b.clauses "from" Body.IsTarget ∧ AllAccepted t ok b.clauses "where" .condition

end Clauses

/-- What takes effect is seen. -/
theorem HasEffective.visible_ne_nil {Q : Type} {t : Target} {cs : List (Clause Q)}
    {component : String} {P : Body Q → Prop} (h : HasEffective t cs component P) :
    visible cs component t.engine ≠ [] := by
  obtain ⟨b, hb, -⟩ := h
  obtain ⟨c, hc, -⟩ := exists_of_effectiveItem _ _ _ hb
  exact List.ne_nil_of_mem hc

theorem Condition.allAccepted_iff {Q : Type} {d : Dialect} {ok : Q → Prop}
    {members : List (Scoped (Condition Q))} :
    Condition.AllAccepted d ok members ↔
      ∀ c ∈ members, c.appliesTo d.name → c.item.Accepted d ok := by
  induction members with
  | nil => simp [Condition.AllAccepted]
  | cons c rest ih => simp [Condition.AllAccepted, ih, Scoped.appliesTo]

section Map

variable {Q R : Type} {f : Q → R} {d : Dialect} {ok : R → Prop}

theorem Test.accepted_map (t : Test Q) :
    (t.map f).Accepted d ok ↔ t.Accepted d fun q => ok (f q) := by
  cases t <;> rfl

theorem Condition.accepted_map (c : Condition Q) :
    (c.map f).Accepted d ok ↔ c.Accepted d fun q => ok (f q) := by
  induction c using Condition.induction with
  | test flags t => simp only [Condition.map, Condition.Accepted, Test.accepted_map]
  | group flags members ih =>
    simp only [Condition.map, Condition.mapMembers_eq, Condition.Accepted,
      Condition.allAccepted_iff, List.forall_mem_map, appliesTo_map]
    exact forall₂_congr fun c hc => imp_congr_right fun _ => ih c hc

theorem Table.accepted_map (a : Table Q) :
    (a.map f).Accepted d ok ↔ a.Accepted d fun q => ok (f q) := by
  cases a <;> rfl

theorem JoinClause.accepted_map (j : JoinClause Q) :
    (j.map f).Accepted d ok ↔ j.Accepted d fun q => ok (f q) := by
  cases j with
  | explicit j =>
    have htable : (j.table.item.map f).Accepted d ok ↔ _ := Table.accepted_map j.table.item
    have hmember : ∀ c : Scoped (Condition Q),
        (c.map (Condition.map f)).item.Accepted d ok ↔ c.item.Accepted d fun q => ok (f q) :=
      fun c => Condition.accepted_map c.item
    simp only [JoinClause.map, Join.map, JoinClause.Accepted, Condition.allAccepted_iff,
      List.forall_mem_map, appliesTo_map, hmember]
    exact and_congr_left fun _ => htable
  | _ => rfl

variable [Aliased Q] [Aliased R] (hf : ∀ q, aliasName? (f q) = aliasName? q)

include hf

theorem Table.acceptedDefinition_map (a : Table Q) :
    (a.map f).AcceptedDefinition d ok ↔ a.AcceptedDefinition d fun q => ok (f q) := by
  have hname := refName_map hf a
  cases a with
  | derived query aliasName =>
    simp only [Table.map] at hname
    simp only [Table.map, Table.AcceptedDefinition, hname]
  | _ => rfl

theorem Body.accepted_map (b : Body Q) (place : Section) :
    (b.map f).Accepted d ok place ↔ b.Accepted d (fun q => ok (f q)) place := by
  cases b with
  | table a =>
    cases place with
    | table => exact a.accepted_map
    | cte => exact a.acceptedDefinition_map hf
    | _ => rfl
  | join j =>
    cases place with
    | join => exact j.accepted_map
    | _ => rfl
  | column c => cases c <;> cases place <;> rfl
  | union u => cases u <;> cases place <;> rfl
  | condition c =>
    cases place with
    | condition => exact c.accepted_map
    | _ => rfl
  | _ => cases place <;> rfl

variable {t : Target}

theorem allAccepted_map (cs : List (Clause Q)) (component : String) (place : Section) :
    AllAccepted t ok (cs.map (Scoped.map (Body.map f))) component place ↔
      AllAccepted t (fun q => ok (f q)) cs component place := by
  simp only [AllAccepted, visible_map, List.forall_mem_map]
  exact forall₂_congr fun c _ => Body.accepted_map hf c.item place

theorem effectiveAccepted_map (cs : List (Clause Q)) (component : String) (place : Section) :
    EffectiveAccepted t ok (cs.map (Scoped.map (Body.map f))) component place ↔
      EffectiveAccepted t (fun q => ok (f q)) cs component place := by
  simp only [EffectiveAccepted, effectiveItem_map]
  cases effectiveItem cs component t.engine with
  | none => simp
  | some b => simpa using Body.accepted_map hf b place

theorem writable_map (cs : List (Clause Q)) :
    Writable t ok (cs.map (Scoped.map (Body.map f))) ↔ Writable t (fun q => ok (f q)) cs := by
  simp only [writable_iff, allAccepted_map hf, effectiveAccepted_map hf, visible_map,
    List.map_eq_nil_iff, ne_eq]

theorem selectable_map (cs : List (Clause Q)) :
    Selectable t ok (cs.map (Scoped.map (Body.map f))) ↔ Selectable t (fun q => ok (f q)) cs := by
  simp only [selectable_iff, pathJoins_map, ← baseAlias_eq_none_iff, baseAlias_map hf,
    expanded_map hf, writable_map hf]

omit [Aliased Q] [Aliased R] hf in
theorem hasEffective_map (cs : List (Clause Q)) {component : String} {P : Body R → Prop}
    {P' : Body Q → Prop} (hP : ∀ b, P (b.map f) ↔ P' b) :
    HasEffective t (cs.map (Scoped.map (Body.map f))) component P ↔
      HasEffective t cs component P' := by
  simp only [HasEffective, effectiveItem_map]
  cases effectiveItem cs component t.engine with
  | none => simp
  | some b => simpa using hP b

theorem Block.wellFormed_map (b : Block Q) :
    (b.map f).WellFormed t ok ↔ b.WellFormed t fun q => ok (f q) := by
  have htarget : ∀ b : Body Q, (b.map f).IsTarget ↔ b.IsTarget := by
    intro b
    cases b with
    | table a => cases a <;> rfl
    | _ => rfl
  have hrow : ∀ b : Body Q, (b.map f).IsRow ↔ b.IsRow := by
    intro b
    cases b with
    | insert i => cases i <;> rfl
    | _ => rfl
  have hsource : ∀ b : Body Q, (b.map f).IsSource ok ↔ b.IsSource fun q => ok (f q) := by
    intro b
    cases b with
    | insert i => cases i <;> rfl
    | _ => rfl
  simp only [Block.WellFormed, Block.map, allAccepted_map hf, selectable_map hf,
    hasEffective_map _ htarget, hasEffective_map _ hrow, hasEffective_map _ hsource]

end Map

/-- What a block needs to know of a query nested in it. -/
structure Verdict where
  aliasName : Option String
  isSelectable : Prop

instance : Aliased Verdict := ⟨(·.aliasName)⟩

namespace Query

variable (t : Target)

/-- The nested queries, innermost first, are judged as selects. -/
def verdict : Query → Verdict :=
  fold fun b => ⟨b.aliasName, PolySql.Selectable t Verdict.isSelectable b.clauses⟩

/-- The query can be compiled as a select, with no regard to its method and its WITH list. -/
def Selectable (q : Query) : Prop := (q.verdict t).isSelectable

/-- The query can be compiled. -/
def WellFormed (q : Query) : Prop := q.block.WellFormed t (Selectable t)

variable {t}

theorem aliasName?_verdict (q : Query) : aliasName? (q.verdict t) = aliasName? q := by
  cases q with
  | ofBlock b => exact congrArg Verdict.aliasName (fold_ofBlock _ b)

theorem selectable_iff (q : Query) :
    q.Selectable t ↔ PolySql.Selectable t (Selectable t) q.block.clauses := by
  cases q with
  | ofBlock b =>
    have hfold := congrArg Verdict.isSelectable
      (fold_ofBlock (fun b : Block Verdict =>
        ⟨b.aliasName, PolySql.Selectable t Verdict.isSelectable b.clauses⟩) b)
    rw [Selectable, verdict, hfold]
    exact selectable_map aliasName?_verdict b.clauses

end Query

end PolySql
