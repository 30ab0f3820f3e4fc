import PolySql.Proofs.Restrict
import PolySql.Sql.Statement

/-!
Clauses restricted to one engine, part by part of a statement. Main statement: for the dialect of
that engine, every part and every statement of restricted clauses is that of all clauses.
-/

namespace PolySql

/-- The clauses that the target sees, restricted to its engine. -/
abbrev seenClauses (t : Target) : List (Clause SubSelect) → List (Clause SubSelect) :=
  seenBy t.engine (Body.restrict t.engine)

namespace Sql

variable (t : Target)

theorem memberTerms_restrict {members : List (Scoped (Condition SubSelect))}
    (h : ∀ c ∈ members, condition t.dialect (c.item.restrict t.engine) =
      condition t.dialect c.item) :
    memberTerms t.dialect (Condition.restrictAll t.engine members) =
      memberTerms t.dialect members := by
  induction members with
  | nil => simp only [Condition.restrictAll]
  | cons c rest ih =>
    obtain ⟨component, e, c⟩ := c
    have hrest := ih fun d hd => h d (List.mem_cons_of_mem _ hd)
    have hitem : condition t.dialect (c.restrict t.engine) = condition t.dialect c :=
      h _ List.mem_cons_self
    simp only [Condition.restrictAll, memberTerms]
    split
    · next hseen =>
      simp only [memberTerms, hseen, if_true, hrest, hitem, Condition.flags_restrict]
    · exact hrest

theorem condition_restrict (c : Condition SubSelect) :
    condition t.dialect (c.restrict t.engine) = condition t.dialect c := by
  induction c using Condition.induction with
  | test flags t => simp only [Condition.restrict]
  | group flags members ih =>
    simp only [Condition.restrict, condition, memberTerms_restrict t ih]

theorem join_restrict (b : Body SubSelect) :
    join t.dialect (b.restrict t.engine) = join t.dialect b := by
  cases b with
  | join j =>
    cases j with
    | explicit j =>
      have hon : memberTerms t.dialect (Condition.restrictAll t.engine j.conditions) =
          memberTerms t.dialect j.conditions :=
        memberTerms_restrict t fun c _ => condition_restrict t c.item
      simp only [Body.restrict, JoinClause.restrict, join, hon]
    | _ => rfl
  | condition c => simp only [join, Body.restrict, Body.kind, Condition.kind_restrict]
  | _ => rfl

theorem clauseTerm_restrict (c : Clause SubSelect) :
    clauseTerm t.dialect (c.map (Body.restrict t.engine)) = clauseTerm t.dialect c := by
  obtain ⟨component, e, b⟩ := c
  cases b with
  | condition c =>
    simp only [clauseTerm, Scoped.map, Body.restrict, condition_restrict, Condition.flags_restrict]
  | join j => cases j <;> rfl
  | _ => rfl

/-- Other clauses are written from what restriction leaves alone. -/
theorem tableOf_restrict (b : Body SubSelect) :
    tableOf t.dialect (b.restrict t.engine) = tableOf t.dialect b := by
  cases b <;> simp only [Body.restrict, tableOf, Body.kind, Condition.kind_restrict,
    JoinClause.kind_restrict]

theorem column_restrict (b : Body SubSelect) :
    column t.dialect (b.restrict t.engine) = column t.dialect b := by
  cases b <;> simp only [Body.restrict, column, Body.kind, Condition.kind_restrict,
    JoinClause.kind_restrict]

theorem cte_restrict (b : Body SubSelect) :
    cte t.dialect (b.restrict t.engine) = cte t.dialect b := by
  cases b <;> simp only [Body.restrict, cte, Body.kind, Condition.kind_restrict,
    JoinClause.kind_restrict]

theorem orderItem_restrict (b : Body SubSelect) :
    orderItem t (b.restrict t.engine) = orderItem t b := by
  cases b <;> simp only [Body.restrict, orderItem, Body.kind, Condition.kind_restrict,
    JoinClause.kind_restrict]

theorem union_restrict (b : Body SubSelect) : union t (b.restrict t.engine) = union t b := by
  cases b <;> simp only [Body.restrict, union, Body.kind, Condition.kind_restrict,
    JoinClause.kind_restrict]

section Parts

variable (cs : List (Clause SubSelect))

theorem each_restrict {α : Type} {f : Clause SubSelect → Except CompileError α}
    (hf : ∀ c, f (c.map (Body.restrict t.engine)) = f c) (component : String) :
    (visible (seenClauses t cs) component t.engine).mapM f =
      (visible cs component t.engine).mapM f := by
  rw [visible_seenBy]
  generalize visible cs component t.engine = seen
  induction seen with
  | nil => rfl
  | cons c rest ih => rw [List.map_cons, List.mapM_cons, List.mapM_cons, hf, ih]

theorem columns_restrict (component : String) :
    columns t.dialect (visible (seenClauses t cs) component t.engine) =
      columns t.dialect (visible cs component t.engine) := by
  unfold columns
  rw [each_restrict t cs fun c => column_restrict t c.item]

theorem windowOf_restrict : windowOf t (seenClauses t cs) = windowOf t cs := by
  unfold windowOf
  rw [effectiveItem_seenBy]
  cases effectiveItem cs "limit" t.engine with
  | none => rfl
  | some b => cases b <;> simp only [Option.map_some, Body.restrict, Body.kind,
      Condition.kind_restrict, JoinClause.kind_restrict]

theorem lockOf_restrict : lockOf t (seenClauses t cs) = lockOf t cs := by
  unfold lockOf
  rw [effectiveItem_seenBy]
  cases effectiveItem cs "lock" t.engine with
  | none => rfl
  | some b => cases b <;> simp only [Option.map_some, Body.restrict, Body.kind,
      Condition.kind_restrict, JoinClause.kind_restrict]

theorem aggregatePart_restrict (window : Option Window) (isDistinct : Bool) :
    aggregatePart t window isDistinct (seenClauses t cs) =
      aggregatePart t window isDistinct cs := by
  unfold aggregatePart
  rw [effectiveItem_seenBy]
  cases effectiveItem cs "aggregate" t.engine with
  | none => rfl
  | some b => cases b <;> simp only [Option.map_some, Body.restrict, Body.kind,
      Condition.kind_restrict, JoinClause.kind_restrict]

theorem columnsPart_restrict (window : Option Window) (isDistinct : Bool) :
    columnsPart t window isDistinct (seenClauses t cs) = columnsPart t window isDistinct cs := by
  unfold columnsPart
  rw [anyVisible_seenBy, anyVisible_seenBy, columns_restrict]

theorem fromPart_restrict : fromPart t (seenClauses t cs) = fromPart t cs := by
  unfold fromPart
  rw [effectiveItem_seenBy]
  cases effectiveItem cs "from" t.engine with
  | none => rfl
  | some b => simp only [Option.map_some, tableOf_restrict]

theorem joinPart_restrict : joinPart t (seenClauses t cs) = joinPart t cs := by
  unfold joinPart
  rw [each_restrict t cs fun c => join_restrict t c.item]

theorem wherePart_restrict : wherePart t (seenClauses t cs) = wherePart t cs := by
  unfold wherePart
  rw [anyVisible_seenBy, each_restrict t cs (clauseTerm_restrict t)]

theorem groupPart_restrict : groupPart t (seenClauses t cs) = groupPart t cs := by
  rw [groupPart_eq_ite, groupPart_eq_ite, anyVisible_seenBy, columns_restrict]

theorem havingPart_restrict : havingPart t (seenClauses t cs) = havingPart t cs := by
  unfold havingPart
  rw [each_restrict t cs (clauseTerm_restrict t)]

theorem orderPart_restrict : orderPart t (seenClauses t cs) = orderPart t cs := by
  rw [orderPart_eq_ite, orderPart_eq_ite, anyVisible_seenBy,
    each_restrict t cs fun c => orderItem_restrict t c.item]

theorem unionPart_restrict : unionPart t (seenClauses t cs) = unionPart t cs := by
  unfold unionPart
  rw [each_restrict t cs fun c => union_restrict t c.item]

end Parts

section Expand

theorem flatten_cons {ε α : Type} (x : Except ε (List α)) (y : Except ε (List (List α))) :
    List.flatten <$> (x >>= fun a => y >>= fun as => pure (a :: as)) =
      x >>= fun a => (a ++ ·) <$> (List.flatten <$> y) := by
  cases x <;> cases y <;> rfl

variable (t : Target)

theorem seenBy_append (cs ds : List (Clause SubSelect)) :
    seenClauses t (cs ++ ds) = seenClauses t cs ++ seenClauses t ds := by
  simp only [seenBy, List.filter_append, List.map_append]

theorem seenBy_chain [Inflection] (j : PathJoin) {engine source : String} {tables : List String}
    (h : (engine == wildcard || engine == t.engine) = true) :
    seenClauses t (j.chain t.options engine source tables) =
      j.chain t.options engine source tables := by
  induction tables generalizing source with
  | nil => rfl
  | cons table rest ih =>
    have hlink : seenClauses t [j.link t.options engine source table] =
        [j.link t.options engine source table] := by
      simp [seenBy, PathJoin.link, Scoped.appliesTo, h, Scoped.map, Body.restrict,
        JoinClause.restrict, Condition.restrictAll, Condition.restrict]
    have happend := seenBy_append t [j.link t.options engine source table]
      (j.chain t.options engine table rest)
    rw [List.singleton_append, hlink, ih] at happend
    exact happend

theorem expandClause_restrict [Inflection] {c : Clause SubSelect} (base? : Option String)
    (h : c.appliesTo t.engine) :
    expandClause t base? (c.map (Body.restrict t.engine)) =
      seenClauses t <$> expandClause t base? c := by
  have hpath : pathJoin? t (c.map (Body.restrict t.engine)) = pathJoin? t c := by
    obtain ⟨component, e, b⟩ := c
    cases b with
    | join j => cases j <;> rfl
    | _ => rfl
  unfold expandClause
  rw [hpath]
  cases hj : pathJoin? t c with
  | none =>
    have hone : seenClauses t [c] = [c.map (Body.restrict t.engine)] := by simp [seenBy, h]
    exact congrArg Except.ok hone.symm
  | some j =>
    simp only [Scoped.map]
    generalize j.tables = tables
    cases tables with
    | nil => rfl
    | cons table rest =>
      cases base? with
      | none => rfl
      | some base => exact congrArg Except.ok (seenBy_chain t j h).symm

theorem expandClause_unseen [Inflection] {c : Clause SubSelect} (base? : Option String)
    (h : ¬ c.appliesTo t.engine) : expandClause t base? c = .ok [c] := by
  unfold expandClause
  rw [pathJoin?_of_unseen h]

/-- Expansion leaves the clauses of other engines where they are. -/
theorem expandPaths_restrict [Inflection] (cs : List (Clause SubSelect)) :
    expandPaths t (seenClauses t cs) = seenClauses t <$> expandPaths t cs := by
  have hbase : baseAlias t (seenClauses t cs) = baseAlias t cs := by
    unfold baseAlias
    rw [effectiveItem_seenBy]
    cases effectiveItem cs "from" t.engine with
    | none => rfl
    | some b => simp only [Option.map_some, Option.bind_some, Body.refName_restrict]
  unfold expandPaths
  rw [hbase]
  clear hbase
  generalize baseAlias t cs = base?
  induction cs with
  | nil => rfl
  | cons c rest ih =>
    rw [List.mapM_cons, flatten_cons]
    by_cases hseen : c.appliesTo t.engine
    · have hcons : seenClauses t (c :: rest) =
          c.map (Body.restrict t.engine) :: seenClauses t rest := by
        simp [seenBy, hseen]
      rw [hcons, List.mapM_cons, flatten_cons, expandClause_restrict t base? hseen, ih]
      cases expandClause t base? c with
      | error e => rfl
      | ok ds =>
        cases List.flatten <$> rest.mapM (expandClause t base?) with
        | error e => rfl
        | ok es => exact congrArg Except.ok (seenBy_append t ds es).symm
    -- A clause of another engine is left as it is, path join or not, and not seen afterwards.
    · have hcons : seenClauses t (c :: rest) = seenClauses t rest := by
        simp [seenBy, hseen]
      rw [hcons, ih, expandClause_unseen t base? hseen]
      cases List.flatten <$> rest.mapM (expandClause t base?) with
      | error e => rfl
      | ok es =>
        have hone : seenClauses t [c] = [] := by simp [seenBy, hseen]
        have happend := seenBy_append t [c] es
        rw [hone, List.nil_append] at happend
        exact congrArg Except.ok happend.symm

end Expand

section Statement

variable (t : Target) (cs : List (Clause SubSelect))

theorem withColumns_restrict :
    (if anyVisible (seenClauses t cs) "select" t.engine then seenClauses t cs
      else seenClauses t cs ++ [allColumns]) =
      seenClauses t (if anyVisible cs "select" t.engine then cs else cs ++ [allColumns]) := by
  rw [anyVisible_seenBy]
  split
  · rfl
  · have hstar : seenClauses t [allColumns] = [allColumns] := by
      simp [seenBy, allColumns, Scoped.appliesTo, Scoped.map, Body.restrict]
    rw [seenBy_append, hstar]

theorem selectExpanded_restrict (isDistinct : Bool) :
    selectExpanded t isDistinct (seenClauses t cs) = selectExpanded t isDistinct cs := by
  simp only [selectExpanded, withColumns_restrict, windowOf_restrict, lockOf_restrict,
    aggregatePart_restrict, columnsPart_restrict, fromPart_restrict, joinPart_restrict,
    wherePart_restrict, groupPart_restrict, havingPart_restrict, orderPart_restrict,
    unionPart_restrict]

theorem select_restrict (isDistinct : Bool) :
    select t isDistinct (seenClauses t cs) = select t isDistinct cs := by
  unfold select
  rw [expandPaths_restrict]
  cases expandPaths t cs with
  | error e => rfl
  | ok ds => exact selectExpanded_restrict t ds isDistinct

theorem changedTable_restrict (change : Change) :
    changedTable t change (seenClauses t cs) = changedTable t change cs := by
  unfold changedTable
  rw [effectiveItem_seenBy]
  cases effectiveItem cs "from" t.engine with
  | none => rfl
  | some b => cases b <;> simp only [Option.map_some, Body.restrict, Body.kind,
      Condition.kind_restrict, JoinClause.kind_restrict]

theorem insert_restrict : insert t (seenClauses t cs) = insert t cs := by
  unfold insert
  rw [changedTable_restrict, effectiveItem_seenBy]
  cases effectiveItem cs "insert" t.engine with
  | none => rfl
  | some b => cases b <;> rfl

theorem whereSuffix_restrict : whereSuffix t (seenClauses t cs) = whereSuffix t cs := by
  unfold whereSuffix
  rw [wherePart_restrict]

theorem update_restrict : update t (seenClauses t cs) = update t cs := by
  unfold update
  rw [changedTable_restrict, effectiveItem_seenBy, whereSuffix_restrict]
  cases effectiveItem cs "update" t.engine with
  | none => rfl
  | some b => cases b <;> rfl

theorem delete_restrict : delete t (seenClauses t cs) = delete t cs := by
  unfold delete
  rw [changedTable_restrict, whereSuffix_restrict]

theorem withList_restrict : withList t.dialect (seenClauses t cs) = withList t.dialect cs := by
  rw [withList_eq_ite, withList_eq_ite, anyVisible_seenBy,
    each_restrict t cs fun c => cte_restrict t c.item]

theorem subSelect_restrict (b : Block SubSelect) :
    subSelect t (b.restrict t.engine) = subSelect t b := by
  simp only [subSelect, Block.restrict, select_restrict]

theorem statement_restrict (b : Block SubSelect) :
    statement t (b.restrict t.engine) = statement t b := by
  simp only [statement, Block.restrict, withList_restrict, insert_restrict, update_restrict,
    delete_restrict, select_restrict]

end Statement

end Sql

end PolySql
