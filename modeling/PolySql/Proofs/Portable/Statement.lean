import PolySql.Proofs.Portable.Part

/-!
Statements for targets that bind alike. Main statement: every query binds alike whose clauses are in
the scope of both targets or of neither.
-/

namespace PolySql

/-- The column for all columns, as a clause of a query. -/
def starClause : Clause Query := ⟨"select", wildcard, .column (.named "*")⟩

namespace Portable

variable {t t' : Target} {err : CompileError → CompileError → Prop}
  {r : List Json → List Json → Prop} {paged : Window → Prop} (law : Portable t t' err r paged)

include law

section Expansion

variable {cs : List (Clause Query)} (h : PortedClauses t t' err r paged cs)

include h

omit law in
theorem pathJoin?_eq {c : Clause Query} (hc : c ∈ cs) : pathJoin? t' c = pathJoin? t c := by
  have hscope : (c.engine == t.engine) = (c.engine == t'.engine) := (h c hc).1
  unfold pathJoin?
  rw [Scoped.appliesTo, Scoped.appliesTo, hscope]

omit law in
theorem baseAlias_eq : baseAlias t' cs = baseAlias t cs := by
  rw [baseAlias, baseAlias, effectiveItem_eq h]

omit law in
theorem stranded?_eq : stranded? t' cs = stranded? t cs := by
  have hpaths : pathJoins t' cs = pathJoins t cs :=
    List.filterMap_congr fun c hc => pathJoin?_eq h hc
  rw [stranded?, stranded?, baseAlias_eq h, hpaths]

theorem expanded_eq [Inflection] : expanded t' cs = expanded t cs := by
  unfold expanded
  rw [baseAlias_eq h]
  refine List.flatMap_congr fun c hc => ?_
  rw [replacement, replacement, pathJoin?_eq h hc, law.options]

/-- What a path join is replaced by holds no queries, and is seen by all who see the path join. -/
theorem ported_expanded [Inflection] : PortedClauses t t' err r paged (expanded t cs) := by
  intro d hd
  obtain ⟨c, hc, hd⟩ := List.mem_flatMap.mp hd
  obtain ⟨-, rfl⟩ | ⟨j, -, source, -, table, -, rfl⟩ := of_mem_replacement hd
  · exact h d hc
  · refine ⟨(h c hc).1, ?_, by simp [PathJoin.link, Body.window?], ?_⟩
    · intro e he
      simp [PathJoin.link, Body.engines, JoinClause.engines, Condition.memberEngines,
        Condition.engines] at he
      rw [he]
      exact law.wildcard
    · simp [PathJoin.nested_link]

end Expansion

section Select

/-- The rows to take stand in front, and what else a window binds behind the other parts. -/
theorem sentence {window : Option Window} {parts parts' : List Fragment}
    {unions unions' : Fragment} {lock lock' : String} (hpaged : ∀ w ∈ window, paged w)
    (hparts : Topped t t' r window (parts.flatMap (·.bindings)) (parts'.flatMap (·.bindings)))
    (hunions : BindAlike r unions unions') :
    BindAlike r
      (.sentence (parts ++ [(window.bind t.dialect.limit).getD ∅,
        (window.bind t.dialect.offset).getD ∅] ++ [unions, (lock : Fragment)]))
      (.sentence (parts' ++ [(window.bind t'.dialect.limit).getD ∅,
        (window.bind t'.dialect.offset).getD ∅] ++ [unions', (lock' : Fragment)])) := by
  obtain ⟨vs, vs', hr, hvs, hvs'⟩ := hparts
  cases window with
  | none =>
    have hboth := law.append hr hunions
    simpa [BindAlike, Fragment.sentence, hvs, hvs', Sql.topPart] using hboth
  | some w =>
    have htop : ∀ u : Target, (Sql.topPart u (some w)).bindings =
        ((u.dialect.top w).getD ∅).bindings := by
      intro u
      rw [Sql.topPart, Option.bind_some]
      cases u.dialect.top w <;> simp
    have hboth := law.append (law.window (hpaged w rfl) hr) hunions
    simpa [BindAlike, Fragment.sentence, hvs, hvs', htop, Dialect.windowed] using hboth

variable {cs : List (Clause Query)} (h : PortedClauses t t' err r paged cs)

include h

/-- The column for all columns is added for both targets or for neither. -/
theorem withColumns (hpaths : ∀ c ∈ visible cs "join" t.engine, ∀ j, c.item ≠ .join (.path j)) :
    ∃ ds, Sql.withColumns t (subSelects t cs) = subSelects t ds ∧
      Sql.withColumns t' (subSelects t' cs) = subSelects t' ds ∧
      PortedClauses t t' err r paged ds ∧ anyVisible ds "select" t.engine ∧
      ∀ c ∈ visible ds "join" t.engine, ∀ j, c.item ≠ .join (.path j) := by
  unfold Sql.withColumns
  rw [anyVisible_map, anyVisible_map, anyVisible_eq h]
  by_cases hselect : anyVisible cs "select" t.engine
  · exact ⟨cs, if_pos hselect, if_pos hselect, h, hselect, hpaths⟩
  · have hstar : ∀ u : Target, subSelects u (cs ++ [starClause]) =
        subSelects u cs ++ [Sql.allColumns] := fun u => List.map_append
    refine ⟨cs ++ [starClause], ?_, ?_, ?_, ?_, ?_⟩
    · rw [if_neg hselect, hstar]
    · rw [if_neg hselect, hstar]
    · intro c hc
      rcases List.mem_append.mp hc with hc | hc
      · exact h c hc
      · rw [List.mem_singleton.mp hc]
        exact ⟨law.wildcard, by simp [starClause, Body.engines],
          by simp [starClause, Body.window?], by simp [starClause, Body.nested, Column.nested]⟩
    · simp [anyVisible, starClause, Scoped.appliesTo]
    · have hjoins : visible (cs ++ [starClause]) "join" t.engine = visible cs "join" t.engine := by
        rw [visible_append]
        simp [visible, starClause]
      rwa [hjoins]

section Parts

variable (hselect : anyVisible cs "select" t.engine)
  (hpaths : ∀ c ∈ visible cs "join" t.engine, ∀ j, c.item ≠ .join (.path j))

include hselect hpaths

/-- The parts in front of the paging. -/
theorem frontParts (window : Option Window) (isDistinct : Bool) :
    Concur err
      (fun fs fs' => Topped t t' r window (fs.flatMap (·.bindings)) (fs'.flatMap (·.bindings)))
      ([Sql.aggregatePart t window isDistinct (subSelects t cs),
        Sql.columnsPart t window isDistinct (subSelects t cs), Sql.fromPart t (subSelects t cs),
        Sql.joinPart t (subSelects t cs), Sql.wherePart t (subSelects t cs),
        Sql.groupPart t (subSelects t cs), Sql.havingPart t (subSelects t cs),
        Sql.orderPart t (subSelects t cs)].mapM id)
      ([Sql.aggregatePart t' window isDistinct (subSelects t' cs),
        Sql.columnsPart t' window isDistinct (subSelects t' cs), Sql.fromPart t' (subSelects t' cs),
        Sql.joinPart t' (subSelects t' cs), Sql.wherePart t' (subSelects t' cs),
        Sql.groupPart t' (subSelects t' cs), Sql.havingPart t' (subSelects t' cs),
        Sql.orderPart t' (subSelects t' cs)].mapM id) := by
  have htail := law.mapM (f := id) (g := id) (.cons (law.fromPart h)
    (.cons (law.joinPart h hpaths) (.cons (law.wherePart h) (.cons (law.groupPart h)
      (.cons (law.havingPart h) (.cons (law.orderPart h) .nil))))))
  show Concur err _ (([_, _] ++ [_, _, _, _, _, _]).mapM id)
    (([_, _] ++ [_, _, _, _, _, _]).mapM id)
  rw [List.mapM_append, List.mapM_append]
  refine (law.headParts h window isDistinct hselect).bind fun fs fs' hhead => ?_
  refine htail.bind fun gs gs' hgs => .pure ?_
  obtain ⟨vs, vs', hr, hvs, hvs'⟩ := hhead
  refine ⟨_, _, law.append hr hgs, ?_, ?_⟩
  · rw [List.flatMap_append, hvs, List.append_assoc]
  · rw [List.flatMap_append, hvs', List.append_assoc]

end Parts

theorem selectExpanded (isDistinct : Bool)
    (hpaths : ∀ c ∈ visible cs "join" t.engine, ∀ j, c.item ≠ .join (.path j)) :
    Concur err (BindAlike r) (Sql.selectExpanded t isDistinct (subSelects t cs))
      (Sql.selectExpanded t' isDistinct (subSelects t' cs)) := by
  obtain ⟨ds, hds, hds', hported, hselect, hpaths⟩ := law.withColumns h hpaths
  unfold Sql.withColumns at hds hds'
  unfold Sql.selectExpanded
  rw [hds, hds']
  refine (law.windowOf hported).bind fun window window' hwindow => ?_
  obtain ⟨rfl, hpaged⟩ := hwindow
  refine (law.lockOf hported).bind fun mode mode' _ => ?_
  refine (law.frontParts hported hselect hpaths window isDistinct).bind fun fs fs' hfront => ?_
  exact (law.unionPart hported).bind fun f f' hunions => .pure (law.sentence hpaged hfront hunions)

theorem select (isDistinct : Bool) :
    Concur err (BindAlike r) (Sql.select t isDistinct (subSelects t cs))
      (Sql.select t' isDistinct (subSelects t' cs)) := by
  have hname := Query.aliasName?_subSelect
  rw [Sql.select, Sql.select, expandPaths_eq, expandPaths_eq, stranded?_map (hname t),
    stranded?_map (hname t'), expanded_map (hname t), expanded_map (hname t'), stranded?_eq h,
    law.expanded_eq h]
  cases stranded? t cs with
  | some j => exact .error (law.refused _ (by simp))
  | none =>
    exact law.selectExpanded (law.ported_expanded h) isDistinct
      (ne_path_of_visible (pathJoins_expanded cs))

end Select

section Change

variable {cs : List (Clause Query)} (h : PortedClauses t t' err r paged cs)

include h

/-- Both targets change the same table, whose name binds nothing. -/
theorem changedTable (change : Change) :
    Concur err (BindAlike r) (Sql.changedTable t change (subSelects t cs))
      (Sql.changedTable t' change (subSelects t' cs)) := by
  unfold Sql.changedTable
  rw [effectiveItem_map, effectiveItem_map, effectiveItem_eq h]
  cases effectiveItem cs "from" t.engine with
  | none => exact .error (law.refused _ (by simp))
  | some b =>
    have hkind : err (.invalidTarget change (b.map (Query.subSelect t)).kind)
        (.invalidTarget change (b.map (Query.subSelect t')).kind) := by
      rw [Body.kind_map, Body.kind_map]
      exact law.refused _ (by simp)
    cases b with
    | table a =>
      cases a with
      | named name => exact .ok (law.of_eq rfl)
      | _ => exact .error hkind
    | _ => exact .error hkind

omit h in
/-- A row of the wrong length is refused by both. -/
theorem checkRow (change : Change) (columns : List String) (values : List Bound)
    {x y : Except CompileError Fragment} (hxy : Concur err (BindAlike r) x y) :
    Concur err (BindAlike r) (Sql.checkRow change columns values >>= fun _ => x)
      (Sql.checkRow change columns values >>= fun _ => y) := by
  unfold Sql.checkRow
  split
  · exact hxy
  · exact .error (law.refused _ (by simp))

theorem insert :
    Concur err (BindAlike r) (Sql.insert t (subSelects t cs))
      (Sql.insert t' (subSelects t' cs)) := by
  unfold Sql.insert
  refine (law.changedTable h .insert).bind fun target target' htarget => ?_
  rw [effectiveItem_map, effectiveItem_map, effectiveItem_eq h]
  cases hitem : effectiveItem cs "insert" t.engine with
  | none => exact .error (law.refused _ (by simp))
  | some b =>
    have hnested := (ported_of_effectiveItem h hitem).nested
    cases b with
    | insert i =>
      cases i with
      | base => exact .error (law.refused _ (by simp))
      | row columns values =>
        refine law.checkRow .insert columns values (.pure ?_)
        have hboth := law.append htarget (law.same (values.flatMap Bound.values))
        simpa [BindAlike] using hboth
      | rows columns query =>
        refine (hnested query List.mem_cons_self).bind fun f f' hf => .pure ?_
        have hboth := law.append htarget hf
        simpa [BindAlike] using hboth
    | _ => exact .error (law.refused _ (by simp))

theorem whereSuffix :
    Concur err (BindAlike r) (Sql.whereSuffix t (subSelects t cs))
      (Sql.whereSuffix t' (subSelects t' cs)) := by
  unfold Sql.whereSuffix
  refine (law.wherePart h).bind fun f f' hf => .pure ?_
  simpa [BindAlike, apply_ite Fragment.bindings] using hf

theorem update :
    Concur err (BindAlike r) (Sql.update t (subSelects t cs))
      (Sql.update t' (subSelects t' cs)) := by
  unfold Sql.update
  refine (law.changedTable h .update).bind fun target target' htarget => ?_
  rw [effectiveItem_map, effectiveItem_map, effectiveItem_eq h]
  cases effectiveItem cs "update" t.engine with
  | none => exact .error (law.refused _ (by simp))
  | some b =>
    cases b with
    | insert i =>
      cases i with
      | row columns values =>
        refine law.checkRow .update columns values ?_
        refine (law.whereSuffix h).bind fun f f' hf => .pure ?_
        have hset : ∀ u : Target, (Sql.assignments u columns values).bindings =
            (columns.zip values).flatMap fun p => p.2.values := by
          intro u
          simp [Sql.assignments, Fragment.bindings_separated, List.flatMap_map]
        have hboth := law.append htarget (law.append (law.same
          ((columns.zip values).flatMap fun p => p.2.values)) hf)
        simpa [BindAlike, hset] using hboth
      | _ => exact .error (law.refused _ (by simp))
    | _ => exact .error (law.refused _ (by simp))

theorem delete :
    Concur err (BindAlike r) (Sql.delete t (subSelects t cs))
      (Sql.delete t' (subSelects t' cs)) := by
  unfold Sql.delete
  refine (law.changedTable h .delete).bind fun target target' htarget => ?_
  refine (law.whereSuffix h).bind fun f f' hf => .pure ?_
  have hboth := law.append htarget hf
  simpa [BindAlike] using hboth

end Change

section Query

variable {q : Query}

omit law in
theorem portedClauses (hengines : ∀ e ∈ q.engines, SameScope t t' e)
    (hwindows : ∀ w ∈ q.windows, paged w) (hnested : ∀ p ∈ q.block.nested, p.Ported t t' err r) :
    PortedClauses t t' err r paged q.block.clauses := by
  rw [Query.engines_eq] at hengines
  rw [Query.windows_eq] at hwindows
  simp only [Block.engines, List.mem_append, List.mem_flatMap, List.mem_cons] at hengines
  simp only [Block.windows, List.mem_append, List.mem_filterMap] at hwindows
  simp only [Block.nested, List.mem_flatMap] at hnested
  intro c hc
  refine ⟨hengines _ (.inl ⟨c, hc, .inl rfl⟩), fun e he => ?_, fun w hw => ?_, fun p hp => ?_⟩
  · exact hengines e (.inl ⟨c, hc, .inr he⟩)
  · exact hwindows w (.inl ⟨c, hc, hw⟩)
  · exact hnested p ⟨c, hc, hp⟩

theorem ported (hengines : ∀ e ∈ q.engines, SameScope t t' e)
    (hwindows : ∀ w ∈ q.windows, paged w) : q.Ported t t' err r := by
  induction q using Query.induction with
  | step b ih =>
    have hnested : ∀ p ∈ b.nested, p.Ported t t' err r := fun p hp =>
      ih p hp (fun e he => hengines e (Query.engines_subset (q := .ofBlock b) hp he))
        fun w hw => hwindows w (Query.windows_subset (q := .ofBlock b) hp hw)
    rw [Query.Ported, Query.subSelect_eq, Query.subSelect_eq t']
    exact law.select (portedClauses hengines hwindows hnested) b.isDistinct

/-- A query binds alike whose clauses are seen for both targets or for neither, if its windows
do. -/
theorem compile (hengines : ∀ e ∈ q.engines, SameScope t t' e)
    (hwindows : ∀ w ∈ q.windows, paged w) :
    Concur err (BindAlike r) (q.compile t) (q.compile t') := by
  have hnested : ∀ p ∈ q.block.nested, p.Ported t t' err r := fun p hp =>
    law.ported (fun e he => hengines e (Query.engines_subset hp he))
      fun w hw => hwindows w (Query.windows_subset hp hw)
  have h := portedClauses hengines hwindows hnested
  have hlist : ∀ {x y : Except CompileError Fragment}, Concur err (BindAlike r) x y →
      Concur err (BindAlike r)
        (Sql.withList t.dialect (subSelects t q.block.clauses) >>= fun ctes =>
          x >>= fun sql => pure (ctes ++ sql))
        (Sql.withList t'.dialect (subSelects t' q.block.clauses) >>= fun ctes =>
          y >>= fun sql => pure (ctes ++ sql)) := by
    intro x y hxy
    refine (law.withList h).bind fun f f' hf => ?_
    exact hxy.bind fun g g' hg => .pure (law.append hf hg)
  unfold Query.compile Sql.statement
  simp only [Block.map]
  split
  · exact hlist (law.insert h)
  · exact hlist (law.update h)
  · exact hlist (law.delete h)
  · exact hlist (law.select h _)

end Query

end Portable

end PolySql
