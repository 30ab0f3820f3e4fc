import PolySql.Proofs.Accepted
import PolySql.Proofs.Columns
import PolySql.Proofs.Restrict
import PolySql.Proofs.Success
import PolySql.Sql.Statement

/-!
Compilation succeeds for exactly the queries that are well formed for the target. Main statements:
each clause is written in a place exactly if it is accepted there, and a query is compiled exactly
if it is well formed.
-/

namespace PolySql

/-- A nested query that has been compiled without an error. -/
abbrev SubSelect.Compiled (s : SubSelect) : Prop := Succeeds s.select

/-- What its compilation tells of a nested query. -/
def SubSelect.verdict (s : SubSelect) : Verdict := ⟨s.aliasName, s.Compiled⟩

theorem succeeds_verbatim {d : Dialect} (sql : Verbatim) :
    Succeeds (d.verbatim sql) ↔ sql.Balanced d := by
  rw [Dialect.verbatim, fill, Verbatim.Balanced]
  split
  · next h => exact iff_of_true (succeeds_ok _) h
  · next h => exact iff_of_false (not_succeeds_error _) h

namespace Sql

section Clauses

variable {d : Dialect}

theorem succeeds_test (isNot : Bool) (t : Test SubSelect) :
    Succeeds (test d isNot t) ↔ t.Accepted d SubSelect.Compiled := by
  cases t with
  | base => exact iff_of_false (not_succeeds_error _) id
  | verbatim sql => exact succeeds_verbatim sql
  | subquery column operator query => exact succeeds_bind_pure
  | oneOfQuery column query => exact succeeds_bind_pure
  | nonempty query => exact succeeds_bind_pure
  | _ => exact iff_of_true (succeeds_ok _) trivial

theorem succeeds_memberTerms {members : List (Scoped (Condition SubSelect))}
    (h : ∀ c ∈ members,
      Succeeds (condition d c.item) ↔ c.item.Accepted d SubSelect.Compiled) :
    Succeeds (memberTerms d members) ↔ Condition.AllAccepted d SubSelect.Compiled members := by
  induction members with
  | nil => simp [memberTerms, Condition.AllAccepted]
  | cons c rest ih =>
    obtain ⟨component, e, c⟩ := c
    have hitem : Succeeds (condition d c) ↔ c.Accepted d SubSelect.Compiled :=
      h _ List.mem_cons_self
    have hrest := ih fun c hc => h c (List.mem_cons_of_mem _ hc)
    rw [memberTerms, Condition.AllAccepted]
    split
    · next hseen =>
      rw [succeeds_bind_and fun f => succeeds_bind_pure, hitem, hrest]
      simp [hseen]
    · next hunseen => rw [hrest, and_iff_right fun hseen => absurd hseen hunseen]

theorem succeeds_condition (c : Condition SubSelect) :
    Succeeds (condition d c) ↔ c.Accepted d SubSelect.Compiled := by
  induction c using Condition.induction with
  | test flags t => simp only [condition, Condition.Accepted, succeeds_test]
  | group flags members ih =>
    simp only [condition, Condition.Accepted, succeeds_bind_pure, succeeds_memberTerms ih]

theorem succeeds_table (a : Table SubSelect) :
    Succeeds (table d a) ↔ a.Accepted d SubSelect.Compiled := by
  cases a with
  | base => exact iff_of_false (not_succeeds_error _) id
  | named name => exact iff_of_true (succeeds_ok _) trivial
  | verbatim sql aliasName => exact succeeds_verbatim sql
  | derived query aliasName => exact succeeds_bind_pure

theorem succeeds_tableOf (b : Body SubSelect) :
    Succeeds (tableOf d b) ↔ b.Accepted d SubSelect.Compiled .table := by
  cases b with
  | table a => exact succeeds_table a
  | _ => exact iff_of_false (not_succeeds_error _) id

theorem succeeds_join (b : Body SubSelect) :
    Succeeds (join d b) ↔ b.Accepted d SubSelect.Compiled .join := by
  cases b with
  | join j =>
    cases j with
    | explicit j =>
      have hon : Succeeds (memberTerms d j.conditions) ↔ _ :=
        succeeds_memberTerms fun c _ => succeeds_condition c.item
      simp only [join, Body.Accepted, JoinClause.Accepted]
      rw [succeeds_bind_and fun f => succeeds_bind_pure, succeeds_table, hon]
    | _ => exact iff_of_false (not_succeeds_error _) id
  | _ => exact iff_of_false (not_succeeds_error _) id

theorem succeeds_column (b : Body SubSelect) :
    Succeeds (column d b) ↔ b.Accepted d SubSelect.Compiled .column := by
  cases b with
  | column c =>
    cases c with
    | base => exact iff_of_false (not_succeeds_error _) id
    | named name => exact iff_of_true (succeeds_ok _) trivial
    | verbatim sql => exact succeeds_verbatim sql
    | subquery query => exact succeeds_bind_pure
  | _ => exact iff_of_false (not_succeeds_error _) id

theorem succeeds_definition {aliasName : Option String} {query : Except CompileError Fragment} :
    Succeeds (definition d aliasName query) ↔ Named aliasName ∧ Succeeds query := by
  unfold definition Named
  split
  · simp
  · simp
  · next name hname =>
    rw [succeeds_bind_pure, and_iff_right]
    exact ⟨name, rfl, hname⟩

theorem succeeds_cte (b : Body SubSelect) :
    Succeeds (cte d b) ↔ b.Accepted d SubSelect.Compiled .cte := by
  cases b with
  | table a =>
    cases a with
    | verbatim sql aliasName =>
      simp only [cte, Body.Accepted, Table.AcceptedDefinition]
      rw [succeeds_definition, succeeds_verbatim]
    | derived query aliasName => exact succeeds_definition
    | _ => exact iff_of_false (not_succeeds_error _) id
  | _ => exact iff_of_false (not_succeeds_error _) id

theorem succeeds_clauseTerm (c : Clause SubSelect) :
    Succeeds (clauseTerm d c) ↔ c.item.Accepted d SubSelect.Compiled .condition := by
  obtain ⟨component, e, b⟩ := c
  cases b with
  | condition c =>
    simp only [clauseTerm, Body.Accepted]
    rw [succeeds_bind_pure, succeeds_condition]
  | _ => exact iff_of_false (not_succeeds_error _) id

end Clauses

section Parts

variable {t : Target}

theorem succeeds_orderItem (b : Body SubSelect) :
    Succeeds (orderItem t b) ↔ b.Accepted t.dialect SubSelect.Compiled .order := by
  cases b with
  | order item =>
    cases item with
    | base => exact iff_of_false (not_succeeds_error _) id
    | verbatim sql => exact succeeds_verbatim sql
    | _ => exact iff_of_true (succeeds_ok _) trivial
  | _ => exact iff_of_false (not_succeeds_error _) id

theorem succeeds_union (b : Body SubSelect) :
    Succeeds (union t b) ↔ b.Accepted t.dialect SubSelect.Compiled .union := by
  cases b with
  | union u =>
    cases u with
    | base => exact iff_of_false (not_succeeds_error _) id
    | operand operation all query => exact succeeds_bind_pure
    | verbatim sql => exact succeeds_verbatim sql
  | _ => exact iff_of_false (not_succeeds_error _) id

variable (cs : List (Clause SubSelect))

theorem succeeds_windowOf :
    Succeeds (windowOf t cs) ↔ EffectiveAccepted t SubSelect.Compiled cs "limit" .limit := by
  rw [windowOf, EffectiveAccepted]
  cases effectiveItem cs "limit" t.engine with
  | none => simp
  | some b => cases b <;> simp [Body.Accepted]

theorem succeeds_lockOf :
    Succeeds (lockOf t cs) ↔ EffectiveAccepted t SubSelect.Compiled cs "lock" .lock := by
  rw [lockOf, EffectiveAccepted]
  cases effectiveItem cs "lock" t.engine with
  | none => simp
  | some b => cases b <;> simp [Body.Accepted]

theorem succeeds_aggregatePart (window : Option Window) (isDistinct : Bool) :
    Succeeds (aggregatePart t window isDistinct cs) ↔
      EffectiveAccepted t SubSelect.Compiled cs "aggregate" .aggregate := by
  rw [aggregatePart, EffectiveAccepted]
  cases effectiveItem cs "aggregate" t.engine with
  | none => simp
  | some b => cases b <;> simp [Body.Accepted]

theorem succeeds_columns (component : String) :
    Succeeds (columns t.dialect (visible cs component t.engine)) ↔
      AllAccepted t SubSelect.Compiled cs component .column := by
  simp only [columns, succeeds_map, succeeds_mapM, succeeds_column, AllAccepted]

theorem succeeds_columnsPart (window : Option Window) (isDistinct : Bool) :
    Succeeds (columnsPart t window isDistinct cs) ↔ (visible cs "aggregate" t.engine = [] →
      AllAccepted t SubSelect.Compiled cs "select" .column) := by
  have haggregate := anyVisible_iff cs "aggregate" t.engine
  have hselect := anyVisible_iff cs "select" t.engine
  unfold columnsPart
  split
  · next h =>
    -- Nothing to write: there is an aggregate, or there are no columns to be refused.
    refine iff_of_true (succeeds_ok _) fun hnone => ?_
    have hempty : visible cs "select" t.engine = [] := by
      simp_all
    rw [AllAccepted, hempty]
    simp
  · next h =>
    have hnone : visible cs "aggregate" t.engine = [] := by
      simp_all
    rw [succeeds_bind_pure, succeeds_columns, imp_iff_right hnone]

theorem succeeds_fromPart :
    Succeeds (fromPart t cs) ↔ EffectiveAccepted t SubSelect.Compiled cs "from" .table := by
  rw [fromPart, EffectiveAccepted]
  cases effectiveItem cs "from" t.engine with
  | none => simp
  | some b => simp [succeeds_tableOf]

theorem succeeds_joinPart :
    Succeeds (joinPart t cs) ↔ AllAccepted t SubSelect.Compiled cs "join" .join := by
  simp only [joinPart, succeeds_map, succeeds_mapM, succeeds_join, AllAccepted]

theorem succeeds_wherePart :
    Succeeds (wherePart t cs) ↔ (visible cs "from" t.engine ≠ [] →
      AllAccepted t SubSelect.Compiled cs "where" .condition) := by
  rw [← anyVisible_iff, wherePart]
  split
  · next h =>
    rw [succeeds_bind_pure, succeeds_mapM, imp_iff_right h]
    simp only [succeeds_clauseTerm, AllAccepted]
  · next h => exact iff_of_true (succeeds_ok _) fun hfrom => absurd hfrom h

theorem succeeds_groupPart :
    Succeeds (groupPart t cs) ↔ AllAccepted t SubSelect.Compiled cs "group" .column := by
  have hcolumns := succeeds_columns (t := t) cs "group"
  unfold groupPart
  split
  · next hnone =>
    rw [AllAccepted, hnone]
    simp
  · next groups hsome => rw [succeeds_bind_pure, ← hcolumns]

theorem succeeds_havingPart :
    Succeeds (havingPart t cs) ↔ AllAccepted t SubSelect.Compiled cs "having" .condition := by
  simp only [havingPart, succeeds_map, succeeds_mapM, succeeds_clauseTerm, AllAccepted]

theorem succeeds_orderPart :
    Succeeds (orderPart t cs) ↔ AllAccepted t SubSelect.Compiled cs "order" .order := by
  rw [AllAccepted, orderPart]
  cases visible cs "order" t.engine with
  | nil => simp
  | cons c rest => simp only [succeeds_bind_pure, succeeds_mapM, succeeds_orderItem]

theorem succeeds_unionPart :
    Succeeds (unionPart t cs) ↔ AllAccepted t SubSelect.Compiled cs "union" .union := by
  simp only [unionPart, succeeds_map, succeeds_mapM, succeeds_union, AllAccepted]

end Parts

section Statement

variable {t : Target} (cs : List (Clause SubSelect))

/-- The column for all columns is accepted, and no other component knows of it. -/
theorem writable_withColumns :
    Writable t SubSelect.Compiled (withColumns t cs) ↔ Writable t SubSelect.Compiled cs := by
  have hcolumns : AllAccepted t SubSelect.Compiled (withColumns t cs) "select" .column ↔
      AllAccepted t SubSelect.Compiled cs "select" .column := by
    by_cases hnone : visible cs "select" t.engine = []
    · rw [AllAccepted, AllAccepted, visible_withColumns_select hnone, hnone]
      simp [allColumns, Body.Accepted, Column.Accepted]
    · rw [withColumns_of_visible hnone]
  have hother : ∀ component, component ≠ "select" →
      visible (withColumns t cs) component t.engine = visible cs component t.engine :=
    fun _ h => visible_withColumns h
  have heffective : ∀ component, component ≠ "select" →
      effectiveItem (withColumns t cs) component t.engine = effectiveItem cs component t.engine :=
    fun _ h => effectiveItem_congr (visible_withColumns h)
  simp only [writable_iff, hcolumns]
  simp [AllAccepted, EffectiveAccepted, hother, heffective]

theorem succeeds_parts (window : Option Window) (isDistinct : Bool) :
    Succeeds ([aggregatePart t window isDistinct cs, columnsPart t window isDistinct cs,
        fromPart t cs, joinPart t cs, wherePart t cs, groupPart t cs, havingPart t cs,
        orderPart t cs].mapM id) ↔
      EffectiveAccepted t SubSelect.Compiled cs "aggregate" .aggregate ∧
      (visible cs "aggregate" t.engine = [] →
        AllAccepted t SubSelect.Compiled cs "select" .column) ∧
      EffectiveAccepted t SubSelect.Compiled cs "from" .table ∧
      AllAccepted t SubSelect.Compiled cs "join" .join ∧
      (visible cs "from" t.engine ≠ [] →
        AllAccepted t SubSelect.Compiled cs "where" .condition) ∧
      AllAccepted t SubSelect.Compiled cs "group" .column ∧
      AllAccepted t SubSelect.Compiled cs "having" .condition ∧
      AllAccepted t SubSelect.Compiled cs "order" .order := by
  simp only [succeeds_mapM, List.forall_mem_cons, id_eq, succeeds_aggregatePart,
    succeeds_columnsPart, succeeds_fromPart, succeeds_joinPart, succeeds_wherePart,
    succeeds_groupPart, succeeds_havingPart, succeeds_orderPart]
  simp

theorem succeeds_selectExpanded (isDistinct : Bool) :
    Succeeds (selectExpanded t isDistinct cs) ↔ Writable t SubSelect.Compiled cs := by
  rw [← writable_withColumns, writable_iff, ← succeeds_windowOf, ← succeeds_lockOf,
    ← succeeds_unionPart]
  have hrun : Succeeds (selectExpanded t isDistinct cs) ↔
      Succeeds (windowOf t (withColumns t cs)) ∧ Succeeds (lockOf t (withColumns t cs)) ∧ _ ∧
        Succeeds (unionPart t (withColumns t cs)) :=
    succeeds_bind_and fun window => succeeds_bind_and fun mode =>
      (succeeds_bind_and fun parts => succeeds_bind_pure).trans
        (and_congr_left' (succeeds_parts (withColumns t cs) window isDistinct))
  rw [hrun]
  simp only [and_assoc]

theorem succeeds_select (isDistinct : Bool) :
    Succeeds (select t isDistinct cs) ↔ Selectable t SubSelect.Compiled cs := by
  rw [select, expandPaths_eq, selectable_iff, ← stranded?_eq_none_iff]
  cases stranded? t cs with
  | none =>
    rw [and_iff_right rfl]
    exact succeeds_selectExpanded (expanded t cs) isDistinct
  | some j => exact iff_of_false (not_succeeds_error _) (by simp)

theorem succeeds_changedTable (change : Change) :
    Succeeds (changedTable t change cs) ↔ HasEffective t cs "from" Body.IsTarget := by
  unfold changedTable HasEffective
  cases effectiveItem cs "from" t.engine with
  | none => simp
  | some b =>
    cases b with
    | table a => cases a <;> simp [Body.IsTarget]
    | _ => simp [Body.IsTarget]

/-- What is done to a table hangs on the table only so far that there is one. -/
theorem succeeds_onTarget {change : Change} {f : Fragment → Except CompileError Fragment} {p : Prop}
    (hf : HasEffective t cs "from" Body.IsTarget → ∀ target, Succeeds (f target) ↔ p) :
    Succeeds (changedTable t change cs >>= f) ↔ HasEffective t cs "from" Body.IsTarget ∧ p := by
  rw [succeeds_bind_iff, ← succeeds_changedTable cs change]
  constructor
  · rintro ⟨target, hrun, h⟩
    have htarget := (succeeds_changedTable cs change).mp ⟨target, hrun⟩
    exact ⟨⟨target, hrun⟩, (hf htarget target).mp h⟩
  · rintro ⟨⟨target, hrun⟩, h⟩
    have htarget := (succeeds_changedTable cs change).mp ⟨target, hrun⟩
    exact ⟨target, hrun, (hf htarget target).mpr h⟩

/-- Beside a table, the filter always counts. -/
theorem succeeds_whereSuffix (h : HasEffective t cs "from" Body.IsTarget) :
    Succeeds (whereSuffix t cs) ↔ AllAccepted t SubSelect.Compiled cs "where" .condition := by
  rw [whereSuffix, succeeds_bind_pure, succeeds_wherePart, imp_iff_right h.visible_ne_nil]

theorem succeeds_checkRow (change : Change) {columns : List String} {values : List Bound} :
    Succeeds (checkRow change columns values) ↔ columns.length = values.length := by
  unfold checkRow
  split
  · next h => exact iff_of_true (succeeds_ok _) h
  · next h => exact iff_of_false (not_succeeds_error _) h

theorem succeeds_insert :
    Succeeds (insert t cs) ↔ HasEffective t cs "from" Body.IsTarget ∧
      HasEffective t cs "insert" (Body.IsSource SubSelect.Compiled) := by
  refine succeeds_onTarget cs fun _ target => ?_
  unfold HasEffective
  cases effectiveItem cs "insert" t.engine with
  | none => simp
  | some b =>
    simp only [Option.mem_some_iff, exists_eq_left']
    cases b with
    | insert i =>
      cases i with
      | base => exact iff_of_false (not_succeeds_error _) id
      | row columns values => exact succeeds_bind_pure.trans (succeeds_checkRow .insert)
      | rows columns query => exact succeeds_bind_pure
    | _ => exact iff_of_false (not_succeeds_error _) id

theorem succeeds_update :
    Succeeds (update t cs) ↔ HasEffective t cs "from" Body.IsTarget ∧
      HasEffective t cs "update" Body.IsRow ∧
        AllAccepted t SubSelect.Compiled cs "where" .condition := by
  refine succeeds_onTarget cs fun htarget target => ?_
  rw [← succeeds_whereSuffix cs htarget]
  unfold HasEffective
  cases effectiveItem cs "update" t.engine with
  | none => simp
  | some b =>
    simp only [Option.mem_some_iff, exists_eq_left']
    cases b with
    | insert i =>
      cases i with
      | row columns values =>
        exact (succeeds_bind_and fun _ => succeeds_bind_pure).trans
          (and_congr_left' (succeeds_checkRow .update))
      | _ => exact iff_of_false (not_succeeds_error _) fun h => h.1
    | _ => exact iff_of_false (not_succeeds_error _) fun h => h.1

theorem succeeds_delete :
    Succeeds (delete t cs) ↔ HasEffective t cs "from" Body.IsTarget ∧
      AllAccepted t SubSelect.Compiled cs "where" .condition := by
  refine succeeds_onTarget cs fun htarget target => ?_
  rw [succeeds_bind_pure, succeeds_whereSuffix cs htarget]

theorem succeeds_withList :
    Succeeds (withList t.dialect cs) ↔ AllAccepted t SubSelect.Compiled cs "cte" .cte := by
  unfold withList AllAccepted
  cases visible cs "cte" t.dialect.name with
  | nil => simp
  | cons c rest => simp only [succeeds_bind_pure, succeeds_mapM, succeeds_cte]

theorem succeeds_statement (b : Block SubSelect) :
    Succeeds (statement t b) ↔ b.WellFormed t SubSelect.Compiled := by
  rw [statement, Block.WellFormed, ← succeeds_withList]
  refine succeeds_bind_and fun ctes => ?_
  cases b.method with
  | select => exact succeeds_bind_pure.trans (succeeds_select b.clauses b.isDistinct)
  | change change =>
    cases change with
    | insert => exact succeeds_bind_pure.trans (succeeds_insert b.clauses)
    | update => exact succeeds_bind_pure.trans (succeeds_update b.clauses)
    | delete => exact succeeds_bind_pure.trans (succeeds_delete b.clauses)

end Statement

end Sql

theorem Query.aliasName?_subSelect (t : Target) (q : Query) :
    aliasName? (q.subSelect t) = aliasName? q := by
  rw [Query.subSelect_eq]
  rfl

/-- A nested query is judged by its clauses as its compilation turns out. -/
theorem Query.verdict_eq (t : Target) (q : Query) : q.verdict t = (q.subSelect t).verdict := by
  induction q using Query.induction with
  | step b nested =>
    have hblock : b.map (Query.verdict t) = (b.map (Query.subSelect t)).map SubSelect.verdict :=
      (Block.map_map fun q hq => (nested q hq).symm).symm
    have hselect : PolySql.Selectable t Verdict.isSelectable (b.map (Query.verdict t)).clauses =
        ((Query.ofBlock b).subSelect t).Compiled := by
      rw [hblock, Query.subSelect_eq]
      have hverdict : PolySql.Selectable t Verdict.isSelectable
          ((b.map (Query.subSelect t)).map SubSelect.verdict).clauses ↔ _ :=
        selectable_map (f := SubSelect.verdict) (fun _ => rfl) (b.map (Query.subSelect t)).clauses
      exact propext (hverdict.trans (Sql.succeeds_select _ b.isDistinct).symm)
    rw [Query.verdict, fold_ofBlock, ← Query.verdict, hselect, Query.subSelect_eq]
    rfl

/-- A query is compiled exactly if it is well formed for the target. -/
theorem compile_succeeds_iff (t : Target) (q : Query) :
    (∃ f, q.compile t = .ok f) ↔ q.WellFormed t := by
  have hnested : (fun q : Query => (q.subSelect t).Compiled) = Query.Selectable t := by
    funext q
    rw [Query.Selectable, Query.verdict_eq]
    rfl
  calc
    (∃ f, q.compile t = .ok f) ↔ (q.block.map (Query.subSelect t)).WellFormed t
        SubSelect.Compiled := Sql.succeeds_statement _
    _ ↔ q.block.WellFormed t fun q => (q.subSelect t).Compiled :=
      Block.wellFormed_map (Query.aliasName?_subSelect t) q.block
    _ ↔ q.WellFormed t := by rw [hnested, Query.WellFormed]

end PolySql
