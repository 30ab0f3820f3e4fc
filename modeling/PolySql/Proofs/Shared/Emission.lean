import PolySql.Proofs.Bindings
import PolySql.Proofs.Columns
import PolySql.Proofs.Expansion
import PolySql.Proofs.Restrict
import PolySql.Proofs.Shared.Builder

/-!
One binder for the whole statement, or fragments put together. Main statement: what is written with
a shared binder, from whatever was bound before, is the fragment that is compiled without one.
-/

namespace PolySql

/-- A compiled query, as the run that writes it. -/
def SubSelect.shared (s : SubSelect) : Nested := ⟨s.aliasName, Writer.emit s.select⟩

namespace Shared

open Writer

/-- Clauses with the compiled queries in them as runs. -/
abbrev shareAll (cs : List (Clause SubSelect)) : List (Clause Nested) :=
  cs.map (Scoped.map (Body.map SubSelect.shared))

/-- The wrong kind of clause is refused alike. -/
theorem throw_unrecognized {α β : Type} {value : α → β} {bindings : α → List Json}
    (b : Body SubSelect) (place : Section) :
    (throw (.unrecognized (b.map SubSelect.shared).kind place) : Writer β) =
      emitWith value bindings (.error (.unrecognized b.kind place)) := by
  rw [Body.kind_map]
  rfl

theorem throw_invalidTarget (b : Body SubSelect) (change : Change) :
    (throw (.invalidTarget change (b.map SubSelect.shared).kind) : Writer String) =
      emit (.error (.invalidTarget change b.kind)) := by
  rw [Body.kind_map]
  rfl

/-- Clauses that are written one by one. -/
theorem mapM_item_eq {write : Body Nested → Writer String}
    {compiled : Body SubSelect → Except CompileError Fragment}
    (h : ∀ b, write (b.map SubSelect.shared) = emit (compiled b)) (cs : List (Clause SubSelect)) :
    (shareAll cs).mapM (fun c => write c.item) = emitAll (cs.mapM fun c => compiled c.item) := by
  rw [List.mapM_map]
  exact mapM_eq_emitAll (fun c => h c.item) cs

section Conditions

variable (d : Dialect)

theorem bound_eq (b : Bound) : bound d b = emit (.ok (d.bound b)) := call_eq_emit _ _

theorem bindAll_eq (bs : List Bound) :
    bindAll d bs = emit (.ok (PolySql.bindAll d.placeholder bs)) := call_eq_emit _ _

theorem verbatim_eq (sql : Verbatim) : verbatim d sql = emit (d.verbatim sql) := call_eq_emit _ _

@[simp] theorem text_paren (f : Fragment) : (Sql.paren f).text = paren f.text := rfl

@[simp] theorem text_negated (isNot : Bool) (f : Fragment) :
    (Sql.negated isNot f).text = negated isNot f.text := by
  cases isNot <;> rfl

theorem pattern_eq (isNot : Bool) (column operator value : String) (caseSensitive : Bool) :
    test d isNot (.pattern column operator value caseSensitive) =
      emit (.ok (Sql.negated isNot (Sql.pattern d column operator value caseSensitive))) := by
  simp only [test, Sql.pattern, bound_eq]
  cases Sql.likePattern? operator value <;> cases caseSensitive <;>
    exact emitWith_ok_bind (by simp [Dialect.bound, Dialect.bind, Bound.fragment])
      (by simp [Dialect.bound, Dialect.bind, Bound.fragment])

theorem test_eq (isNot : Bool) (t : Test SubSelect) :
    test d isNot (t.map SubSelect.shared) = emit (Sql.test d isNot t) := by
  cases t with
  | base => rfl
  | verbatim sql => exact verbatim_eq d sql
  | compare column operator value =>
    simp only [test, Test.map, bound_eq]
    exact emitWith_ok_bind (by simp) (by simp)
  | pattern column operator value caseSensitive => exact pattern_eq d isNot ..
  | datePart column part operator value =>
    simp only [test, Test.map, bound_eq]
    exact emitWith_ok_bind (by simp) (by simp)
  | columns first operator second =>
    simp only [test, Test.map, Sql.test, Fragment.coe_append, emit_text]
  | subquery column operator query =>
    simp only [test, Test.map, SubSelect.shared, Sql.test]
    exact emitWith_bind (fun f => by simp) fun f => by simp
  | oneOf column values =>
    rw [Test.map, test, Sql.test, Sql.oneOf]
    split
    · cases isNot <;> simp [emit_text]
    · simp only [bindAll_eq]
      exact emitWith_ok_bind (by simp) (by simp)
  | oneOfQuery column query =>
    simp only [test, Test.map, SubSelect.shared, Sql.test]
    exact emitWith_bind (fun f => by simp) fun f => by simp
  | between column lower higher =>
    simp only [test, Test.map, bound_eq]
    simp only [Sql.test]
    exact emitWith_ok_bind₂ (by simp) (by simp)
  | isNull column =>
    simp only [test, Test.map, Sql.test, Fragment.coe_append, emit_text]
  | nonempty query =>
    simp only [test, Test.map, SubSelect.shared, Sql.test]
    exact emitWith_bind (fun f => by simp) fun f => by simp
  | isTrue column value =>
    simp only [test, Test.map, Sql.test, Fragment.coe_append, emit_text]

/-- A rendered condition without its bindings. -/
def shown (term : Sql.Term) : Bool × String := (term.isOr, term.sql.text)

def emitTerm : Except CompileError Sql.Term → Writer (Bool × String) :=
  emitWith shown (·.sql.bindings)

def emitTerms : Except CompileError (List Sql.Term) → Writer (List (Bool × String)) :=
  emitWith (List.map shown) (List.flatMap (·.sql.bindings))

theorem text_connectFrom (lead : String) (started : Bool) (terms : List Sql.Term) :
    (Sql.connectFrom lead started terms).text = connectFrom lead started (terms.map shown) := by
  induction terms generalizing started with
  | nil => rfl
  | cons term rest ih =>
    rw [Sql.connectFrom, List.map_cons, shown, connectFrom]
    split
    · next h => rw [Fragment.text_append, h, String.empty_append, ih]
    · simp [ih]

theorem text_connect (lead : String) (terms : List Sql.Term) :
    (Sql.connect lead terms).text = connect lead (terms.map shown) :=
  text_connectFrom lead false terms

theorem text_group (isNot : Bool) (f : Fragment) :
    (Sql.group isNot f).text =
      if f.text = "" then "" else (if isNot then "NOT " else "") ++ paren f.text := by
  unfold Sql.group
  split
  · assumption
  · rfl

theorem emitTerms_nil : emitTerms (.ok []) = pure [] := emitWith_ok rfl

theorem memberTerms_eq {members : List (Scoped (Condition SubSelect))}
    (h : ∀ c ∈ members, condition d (c.item.map SubSelect.shared) = emit (Sql.condition d c.item)) :
    memberTerms d (members.map (Scoped.map (Condition.map SubSelect.shared))) =
      emitTerms (Sql.memberTerms d members) := by
  induction members with
  | nil => simp only [List.map_nil, memberTerms, Sql.memberTerms, emitTerms_nil]
  | cons c rest ih =>
    obtain ⟨component, engine, c⟩ := c
    have hitem : condition d (c.map SubSelect.shared) = emit (Sql.condition d c) :=
      h _ List.mem_cons_self
    have hrest := ih fun c hc => h c (List.mem_cons_of_mem _ hc)
    simp only [List.map_cons, Scoped.map, memberTerms, Sql.memberTerms, hitem, Condition.flags_map]
    split
    · rw [hrest]
      exact emitWith_bind₂ (fun f terms => rfl) fun f terms => rfl
    · exact hrest

theorem condition_eq (c : Condition SubSelect) :
    condition d (c.map SubSelect.shared) = emit (Sql.condition d c) := by
  induction c using Condition.induction with
  | test flags t => simp only [Condition.map, condition, Sql.condition, test_eq]
  | group flags members ih =>
    simp only [Condition.map, Condition.mapMembers_eq, condition, Sql.condition,
      memberTerms_eq d ih]
    refine emitWith_bind (fun terms => ?_) fun terms => ?_
    · rw [text_group, text_connect]
    · rw [bindings_group, bindings_connect]

theorem clauseTerm_eq (c : Clause SubSelect) :
    clauseTerm d (c.map (Body.map SubSelect.shared)) = emitTerm (Sql.clauseTerm d c) := by
  obtain ⟨component, engine, b⟩ := c
  have hrefused : _ = emitTerm (.error _) := throw_unrecognized b .condition
  cases b with
  | condition c =>
    simp only [Scoped.map, Body.map, clauseTerm, condition_eq, Condition.flags_map, Sql.clauseTerm]
    exact emitWith_bind (fun f => rfl) fun f => rfl
  | _ => exact hrefused

theorem mapM_clauseTerm_eq (cs : List (Clause SubSelect)) :
    (shareAll cs).mapM (clauseTerm d) = emitTerms (cs.mapM (Sql.clauseTerm d)) := by
  simp only [List.mapM_map, Function.comp_def, clauseTerm_eq]
  exact emitWith_mapM ..

end Conditions

section Tables

variable (d : Dialect)

theorem table_eq (a : Table SubSelect) :
    table d (a.map SubSelect.shared) = emit (Sql.table d a) := by
  cases a with
  | base => rfl
  | named name => exact (emit_text (d.identifier name)).symm
  | verbatim sql aliasName => exact verbatim_eq d sql
  | derived query aliasName =>
    have hname : (Table.derived query.shared aliasName).refName =
        (Table.derived query aliasName).refName := rfl
    simp only [table, Table.map, Sql.table, hname]
    exact emitWith_bind (fun f => by simp) fun f => by simp

theorem tableOf_eq (b : Body SubSelect) :
    tableOf d (b.map SubSelect.shared) = emit (Sql.tableOf d b) := by
  have hrefused : _ = emit (.error _) := throw_unrecognized b .table
  cases b with
  | table a => exact table_eq d a
  | _ => exact hrefused

theorem join_eq (b : Body SubSelect) : join d (b.map SubSelect.shared) = emit (Sql.join d b) := by
  have hrefused : _ = emit (.error _) := throw_unrecognized b .join
  cases b with
  | join j =>
    cases j with
    | explicit j =>
      have hon : _ = emitTerms (Sql.memberTerms d j.conditions) :=
        memberTerms_eq d fun c _ => condition_eq d c.item
      simp only [Body.map, JoinClause.map, Join.map, Scoped.map, join, table_eq, Sql.join] at hon ⊢
      rw [hon]
      refine emitWith_bind₂ (fun f terms => ?_) fun f terms => ?_
      · rw [← text_connect]
        split
        · next h => simp [h]
        · simp [String.append_assoc]
      · rw [← bindings_connect ""]
        split <;> simp
    | _ => exact hrefused
  | _ => exact hrefused

theorem column_eq (b : Body SubSelect) :
    column d (b.map SubSelect.shared) = emit (Sql.column d b) := by
  have hrefused : _ = emit (.error _) := throw_unrecognized b .column
  cases b with
  | column c =>
    cases c with
    | base => exact hrefused
    | named name => exact (emit_text (d.identifier name)).symm
    | verbatim sql => exact verbatim_eq d sql
    | subquery query =>
      simp only [Body.map, Column.map, SubSelect.shared, column, Sql.column]
      exact emitWith_bind (fun f => by simp) fun f => by simp
  | _ => exact hrefused

theorem columns_eq (cs : List (Clause SubSelect)) :
    columns d (shareAll cs) = emit (Sql.columns d cs) := by
  rw [columns, mapM_item_eq (column_eq d)]
  exact separated_eq_emit ", " _

theorem definition_eq (aliasName : Option String) (x : Except CompileError Fragment) :
    definition d aliasName (emit x) = emit (Sql.definition d aliasName x) := by
  cases aliasName with
  | none => rfl
  | some name =>
    by_cases hname : name = ""
    · rw [hname]
      rfl
    · rw [definition, Sql.definition]
      · exact emitWith_bind (fun f => by simp) fun f => by simp
      · exact hname
      · exact hname

theorem cte_eq (b : Body SubSelect) : cte d (b.map SubSelect.shared) = emit (Sql.cte d b) := by
  have hrefused : _ = emit (.error _) := throw_unrecognized b .cte
  cases b with
  | table a =>
    cases a with
    | verbatim sql aliasName =>
      simp only [Body.map, Table.map, cte, Sql.cte, verbatim_eq, definition_eq]
    | derived query aliasName => exact definition_eq d _ query.select
    | _ => exact hrefused
  | _ => exact hrefused

theorem withList_eq (cs : List (Clause SubSelect)) :
    withList d (shareAll cs) = emit (Sql.withList d cs) := by
  rw [withList, Sql.withList, visible_map]
  cases visible cs "cte" d.name with
  | nil => exact (emit_text "").symm
  | cons c rest =>
    have hall := mapM_item_eq (cte_eq d) (c :: rest)
    simp only [List.map_cons] at hall ⊢
    rw [hall]
    exact emitWith_bind (fun fs => by simp [text_separated])
      fun fs => by simp [Fragment.bindings_separated]

def emitOption (f : Option Fragment) : Writer (Option String) :=
  emitWith (Option.map Fragment.text) (fun f => f.elim [] Fragment.bindings) (.ok f)

theorem emitOption_none : emitOption none = pure none := emitWith_ok (a := none) rfl

theorem emitOption_text (s : String) : emitOption (some (s : Fragment)) = pure (some s) :=
  emitWith_ok (a := some (s : Fragment)) rfl

theorem bindCount_eq (n : Int) : bindCount d n = emit (.ok (d.bindCount n)) := bound_eq d _

theorem top_eq (w : Window) : top d w = emitOption (d.top w) := by
  simp only [top, Dialect.top, bindCount_eq]
  generalize w.take? = take
  generalize w.skip? = skip
  cases d.flavor <;> cases take <;> cases skip <;>
    first
    | exact emitOption_none.symm
    | exact emitWith_ok_bind (by simp) (by simp)

theorem limit_eq (w : Window) : limit d w = emitOption (d.limit w) := by
  simp only [limit, Dialect.limit, bindCount_eq]
  generalize w.take? = take
  generalize w.skip? = skip
  cases d.flavor <;> cases take <;> cases skip <;>
    first
    | exact emitOption_none.symm
    | exact (emitOption_text _).symm
    | exact emitWith_ok_bind (by simp) (by simp)

theorem offset_eq (w : Window) : offset d w = emitOption (d.offset w) := by
  simp only [offset, Dialect.offset, bindCount_eq]
  generalize w.take? = take
  generalize w.skip? = skip
  cases d.flavor <;> cases take <;> cases skip <;>
    first
    | exact emitOption_none.symm
    | exact emitWith_ok_bind (by simp) (by simp)
    | exact emitWith_ok_bind₂ (by simp) (by simp)

theorem windowPart_eq {write : Window → Writer (Option String)} {spelled : Window → Option Fragment}
    (h : ∀ w, write w = emitOption (spelled w)) (window : Option Window) :
    windowPart write window = emitOption (window.bind spelled) := by
  cases window with
  | none => exact emitOption_none.symm
  | some w => exact h w

end Tables

section Statements

variable (t : Target) (cs : List (Clause SubSelect)) (window : Option Window) (isDistinct : Bool)

theorem windowOf_map : windowOf t (shareAll cs) = Sql.windowOf t cs := by
  rw [windowOf, Sql.windowOf, effectiveItem_map]
  cases effectiveItem cs "limit" t.engine with
  | none => rfl
  | some b =>
    have hrefused : (Except.error (.unrecognized (b.map SubSelect.shared).kind .limit) :
        Except CompileError (Option Window)) = .error (.unrecognized b.kind .limit) := by
      rw [Body.kind_map]
    cases b with
    | window w => rfl
    | _ => exact hrefused

theorem lockOf_map : lockOf t (shareAll cs) = Sql.lockOf t cs := by
  rw [lockOf, Sql.lockOf, effectiveItem_map]
  cases effectiveItem cs "lock" t.engine with
  | none => rfl
  | some b =>
    have hrefused : (Except.error (.unrecognized (b.map SubSelect.shared).kind .lock) :
        Except CompileError (Option LockMode)) = .error (.unrecognized b.kind .lock) := by
      rw [Body.kind_map]
    cases b with
    | lock mode => rfl
    | _ => exact hrefused

theorem topPart_eq : topPart t window = emit (.ok (Sql.topPart t window)) := by
  rw [topPart, windowPart_eq (top_eq t.dialect), Sql.topPart]
  refine emitWith_ok_bind ?_ ?_ <;> cases window.bind t.dialect.top <;> simp

theorem aggregatePart_eq :
    aggregatePart t window isDistinct (shareAll cs) =
      emit (Sql.aggregatePart t window isDistinct cs) := by
  rw [aggregatePart, Sql.aggregatePart, effectiveItem_map]
  cases effectiveItem cs "aggregate" t.engine with
  | none => exact (emit_text "").symm
  | some b =>
    have hrefused : _ = emit (.error _) := throw_unrecognized b .aggregate
    cases b with
    | aggregate a =>
      simp only [Option.map_some, Body.map, topPart_eq]
      exact emitWith_ok_bind (by simp) (by simp)
    | _ => exact hrefused

theorem columnsPart_eq :
    columnsPart t window isDistinct (shareAll cs) =
      emit (Sql.columnsPart t window isDistinct cs) := by
  rw [columnsPart, Sql.columnsPart, anyVisible_map, anyVisible_map, visible_map]
  split
  · exact (emit_text "").symm
  · simp only [topPart_eq, columns_eq]
    refine emitWith_ok_bind_bind (fun f => ?_) fun f => ?_
    · by_cases hlist : f.text = "" <;> simp [hlist]
    · by_cases hlist : f.text = "" <;> simp [hlist]

theorem fromPart_eq : fromPart t (shareAll cs) = emit (Sql.fromPart t cs) := by
  rw [fromPart, Sql.fromPart, effectiveItem_map]
  cases effectiveItem cs "from" t.engine with
  | none => exact (emit_text "").symm
  | some b =>
    simp only [Option.map_some, tableOf_eq]
    exact emitWith_bind (fun f => by simp) fun f => by simp

theorem joinPart_eq : joinPart t (shareAll cs) = emit (Sql.joinPart t cs) := by
  rw [joinPart, visible_map, mapM_item_eq (join_eq t.dialect)]
  exact separated_eq_emit " " _

theorem wherePart_eq : wherePart t (shareAll cs) = emit (Sql.wherePart t cs) := by
  rw [wherePart, Sql.wherePart, anyVisible_map, visible_map, mapM_clauseTerm_eq]
  split
  · refine emitWith_bind (fun terms => ?_) fun terms => ?_
    · rw [← text_connect]
      split
      · assumption
      · simp
    · rw [← bindings_connect ""]
      split <;> simp
  · exact (emit_text "").symm

theorem groupPart_eq : groupPart t (shareAll cs) = emit (Sql.groupPart t cs) := by
  rw [groupPart, Sql.groupPart, visible_map]
  cases visible cs "group" t.engine with
  | nil => exact (emit_text "").symm
  | cons c rest =>
    have hcolumns := columns_eq t.dialect (c :: rest)
    simp only [List.map_cons] at hcolumns ⊢
    rw [hcolumns]
    exact emitWith_bind (fun f => by simp) fun f => by simp

theorem havingPart_eq : havingPart t (shareAll cs) = emit (Sql.havingPart t cs) := by
  rw [havingPart, visible_map, mapM_clauseTerm_eq]
  exact emitWith_map (text_connect "HAVING ") (bindings_connect "HAVING ")

theorem orderItem_eq (b : Body SubSelect) :
    orderItem t (b.map SubSelect.shared) = emit (Sql.orderItem t b) := by
  have hrefused : _ = emit (.error _) := throw_unrecognized b .order
  cases b with
  | order item =>
    cases item with
    | base => exact hrefused
    | column column ascending =>
      simp only [Body.map, orderItem, Sql.orderItem, Fragment.coe_append, emit_text]
    | verbatim sql => exact verbatim_eq t.dialect sql
    | random seed => exact (emit_text (t.dialect.random seed)).symm
  | _ => exact hrefused

theorem orderPart_eq : orderPart t (shareAll cs) = emit (Sql.orderPart t cs) := by
  rw [orderPart, Sql.orderPart, visible_map]
  cases visible cs "order" t.engine with
  | nil => exact (emit_text "").symm
  | cons c rest =>
    have hall := mapM_item_eq (orderItem_eq t) (c :: rest)
    simp only [List.map_cons] at hall ⊢
    rw [hall]
    exact emitWith_bind (fun fs => by simp [text_separated])
      fun fs => by simp [Fragment.bindings_separated]

theorem union_eq (b : Body SubSelect) :
    union t (b.map SubSelect.shared) = emit (Sql.union t b) := by
  have hrefused : _ = emit (.error _) := throw_unrecognized b .union
  cases b with
  | union u =>
    cases u with
    | base => exact hrefused
    | operand operation all query =>
      simp only [Body.map, Union.map, SubSelect.shared, union, Sql.union]
      exact emitWith_bind (fun f => by simp) fun f => by simp
    | verbatim sql => exact verbatim_eq t.dialect sql
  | _ => exact hrefused

theorem unionPart_eq : unionPart t (shareAll cs) = emit (Sql.unionPart t cs) := by
  rw [unionPart, visible_map, mapM_item_eq (union_eq t)]
  exact separated_eq_emit " " _

theorem text_sentence (fs : List Fragment) :
    (Fragment.sentence fs).text = sentence (fs.map (·.text)) := by
  rw [Fragment.sentence, text_separated]
  simp only [sentence, List.filter_map, List.map_map, Function.comp_def, Fragment.strip]
  rfl

theorem withColumns_map :
    (if anyVisible (shareAll cs) "select" t.engine then shareAll cs
      else shareAll cs ++ [allColumns]) = shareAll (Sql.withColumns t cs) := by
  rw [Sql.withColumns, anyVisible_map]
  split
  · rfl
  · rw [shareAll, shareAll, List.map_append]
    rfl

/-- The parts in front of the paging. -/
theorem mapM_parts_eq :
    [aggregatePart t window isDistinct (shareAll cs), columnsPart t window isDistinct (shareAll cs),
        fromPart t (shareAll cs), joinPart t (shareAll cs), wherePart t (shareAll cs),
        groupPart t (shareAll cs), havingPart t (shareAll cs), orderPart t (shareAll cs)].mapM id =
      emitAll ([Sql.aggregatePart t window isDistinct cs, Sql.columnsPart t window isDistinct cs,
        Sql.fromPart t cs, Sql.joinPart t cs, Sql.wherePart t cs, Sql.groupPart t cs,
        Sql.havingPart t cs, Sql.orderPart t cs].mapM id) := by
  simp only [aggregatePart_eq, columnsPart_eq, fromPart_eq, joinPart_eq, wherePart_eq,
    groupPart_eq, havingPart_eq, orderPart_eq]
  exact mapM_emit [Sql.aggregatePart t window isDistinct cs,
    Sql.columnsPart t window isDistinct cs, Sql.fromPart t cs, Sql.joinPart t cs,
    Sql.wherePart t cs, Sql.groupPart t cs, Sql.havingPart t cs, Sql.orderPart t cs]

/-- The paging stands between the other parts and binds its numbers there. -/
theorem emit_sentence (x : Except CompileError (List Fragment)) (y : Except CompileError Fragment)
    (limit offset : Option Fragment) (lock : String) :
    (emitAll x >>= fun parts => emitOption limit >>= fun limit =>
        emitOption offset >>= fun offset => emit y >>= fun unions =>
          pure (sentence (parts ++ [limit.getD "", offset.getD "", unions, lock]))) =
      emit (x >>= fun parts => y >>= fun unions => pure (.sentence
        (parts ++ [limit.getD ∅, offset.getD ∅] ++ [unions, (lock : Fragment)]))) := by
  cases x with
  | error e => rfl
  | ok parts =>
    cases y with
    | error e => rfl
    | ok unions =>
      funext bs
      show Except.ok (sentence (parts.map (·.text) ++ [(limit.map Fragment.text).getD "",
          (offset.map Fragment.text).getD "", unions.text, lock]),
          bs ++ parts.flatMap (·.bindings) ++ limit.elim [] Fragment.bindings ++
            offset.elim [] Fragment.bindings ++ unions.bindings) =
        .ok ((Fragment.sentence (parts ++ [limit.getD ∅, offset.getD ∅] ++
            [unions, (lock : Fragment)])).text,
          bs ++ (parts ++ [limit.getD ∅, offset.getD ∅] ++
            [unions, (lock : Fragment)]).flatMap (·.bindings))
      rw [text_sentence]
      cases limit <;> cases offset <;> simp

theorem selectExpanded_eq :
    selectExpanded t isDistinct (shareAll cs) = emit (Sql.selectExpanded t isDistinct cs) := by
  unfold selectExpanded Sql.selectExpanded
  simp only [withColumns_map, windowOf_map, lockOf_map, mapM_parts_eq, unionPart_eq,
    windowPart_eq (limit_eq t.dialect), windowPart_eq (offset_eq t.dialect)]
  refine lift_bind_emitWith fun window => lift_bind_emitWith fun mode => ?_
  exact emit_sentence ..

theorem select_eq : select t isDistinct (shareAll cs) = emit (Sql.select t isDistinct cs) := by
  have hname : ∀ s : SubSelect, aliasName? s.shared = aliasName? s := fun _ => rfl
  rw [select, Sql.select, expandPaths_eq, expandPaths_eq, stranded?_map hname, expanded_map hname]
  cases stranded? t cs with
  | none => exact selectExpanded_eq t (expanded t cs) isDistinct
  | some j => rfl

theorem changedTable_eq (change : Change) :
    changedTable t change (shareAll cs) = emit (Sql.changedTable t change cs) := by
  rw [changedTable, Sql.changedTable, effectiveItem_map]
  cases effectiveItem cs "from" t.engine with
  | none => rfl
  | some b =>
    have hrefused : _ = emit (.error (.invalidTarget change b.kind)) :=
      throw_invalidTarget b change
    cases b with
    | table a =>
      cases a with
      | named name => exact (emit_text (t.dialect.identifier name)).symm
      | _ => exact hrefused
    | _ => exact hrefused

/-- A row is checked before its values are bound. -/
theorem emit_checked {x : Except CompileError Fragment} {check : Except CompileError Unit}
    {write : String → Writer String} {compiled : Fragment → Except CompileError Fragment}
    (h : ∀ target, (emit (.ok target) >>= write) = emit (compiled target)) :
    (emit x >>= fun target => lift check >>= fun _ => write target) =
      emit (x >>= fun target => check >>= fun _ => compiled target) := by
  cases x with
  | error e => rfl
  | ok target =>
    cases check with
    | error e => rfl
    | ok _ => exact h target

theorem insert_eq : insert t (shareAll cs) = emit (Sql.insert t cs) := by
  rw [insert, Sql.insert, changedTable_eq, effectiveItem_map]
  have hrefused := emit_bind_throw (Sql.changedTable t .insert cs) (.noValues .insert)
  cases effectiveItem cs "insert" t.engine with
  | none => exact hrefused
  | some b =>
    cases b with
    | insert i =>
      cases i with
      | base => exact hrefused
      | row columns values =>
        simp only [Option.map_some, Body.map, Insert.map, bindAll_eq]
        exact emit_checked fun target => emitWith_ok_bind₂ (by simp) (by simp)
      | rows columns query =>
        simp only [Option.map_some, Body.map, Insert.map, SubSelect.shared]
        exact emitWith_bind₂ (fun target sql => by simp [apply_ite]) fun target sql => by simp
    | _ => exact hrefused

theorem whereSuffix_eq : whereSuffix t (shareAll cs) = emit (Sql.whereSuffix t cs) := by
  rw [whereSuffix, wherePart_eq]
  refine emitWith_bind (fun f => ?_) fun f => ?_
  · split <;> simp [*]
  · split <;> simp

theorem assignment_eq (p : String × Bound) :
    assignment t p = emit (.ok (t.dialect.identifier p.1 ++ " = " ++ t.dialect.bound p.2)) := by
  rw [assignment, bound_eq]
  exact emitWith_ok_bind (by simp) (by simp)

theorem assignments_eq (ps : List (String × Bound)) :
    ps.mapM (assignment t) =
      emitAll (.ok (ps.map fun p => t.dialect.identifier p.1 ++ " = " ++ t.dialect.bound p.2)) := by
  rw [mapM_eq_emitAll (assignment_eq t) ps]
  exact congrArg emitAll List.mapM_pure

/-- The assignments stand between the table and the filter, and bind there. -/
theorem emit_update (target : Fragment) (fs : List Fragment) (y : Except CompileError Fragment) :
    (emit (.ok target) >>= fun target => emitAll (.ok fs) >>= fun assignments =>
        emit y >>= fun filter => pure ("UPDATE " ++ target ++ " SET " ++
          String.intercalate ", " assignments ++ filter)) =
      emit (y >>= fun filter =>
        pure ("UPDATE " ++ target ++ " SET " ++ .separated ", " fs ++ filter)) := by
  cases y with
  | error e => rfl
  | ok filter =>
    funext bs
    show Except.ok ("UPDATE " ++ target.text ++ " SET " ++
        String.intercalate ", " (fs.map (·.text)) ++ filter.text,
        bs ++ target.bindings ++ fs.flatMap (·.bindings) ++ filter.bindings) =
      .ok (("UPDATE " ++ target ++ " SET " ++ .separated ", " fs ++ filter : Fragment).text,
        bs ++ ("UPDATE " ++ target ++ " SET " ++ .separated ", " fs ++ filter : Fragment).bindings)
    simp [text_separated, Fragment.bindings_separated]

theorem update_eq : update t (shareAll cs) = emit (Sql.update t cs) := by
  rw [update, Sql.update, changedTable_eq, effectiveItem_map]
  have hrefused := emit_bind_throw (Sql.changedTable t .update cs) (.noValues .update)
  cases effectiveItem cs "update" t.engine with
  | none => exact hrefused
  | some b =>
    cases b with
    | insert i =>
      cases i with
      | row columns values =>
        simp only [Option.map_some, Body.map, Insert.map, assignments_eq, whereSuffix_eq,
          Sql.assignments]
        exact emit_checked fun target => emit_update ..
      | _ => exact hrefused
    | _ => exact hrefused

theorem delete_eq : delete t (shareAll cs) = emit (Sql.delete t cs) := by
  rw [delete, changedTable_eq, whereSuffix_eq]
  exact emitWith_bind₂ (fun f g => by simp) fun f g => by simp

theorem statement_eq (b : Block SubSelect) :
    statement t (b.map SubSelect.shared) = emit (Sql.statement t b) := by
  obtain ⟨clauses, method, isDistinct, aliasName⟩ := b
  simp only [statement, Sql.statement, Block.map, withList_eq, insert_eq, update_eq, delete_eq,
    select_eq]
  cases method with
  | select => exact emitWith_bind₂ (fun ctes sql => rfl) fun ctes sql => rfl
  | change change =>
    cases change <;> exact emitWith_bind₂ (fun ctes sql => rfl) fun ctes sql => rfl

end Statements

end Shared

/-- A nested query is written with the shared binder as it is compiled by itself. -/
theorem Query.nested_eq (t : Target) (q : Query) : q.nested t = (q.subSelect t).shared := by
  induction q using Query.induction with
  | step b nested =>
    have hblock : b.map (Query.nested t) = (b.map (Query.subSelect t)).map SubSelect.shared :=
      (Block.map_map fun q hq => (nested q hq).symm).symm
    have hselect := Shared.select_eq t (b.map (Query.subSelect t)).clauses b.isDistinct
    rw [Query.nested, fold_ofBlock, ← Query.nested, hblock, Query.subSelect_eq]
    exact congrArg (Nested.mk b.aliasName) hselect

theorem Query.write_eq (t : Target) (q : Query) : q.write t = Writer.emit (q.compile t) := by
  have hblock : (q.block.map (Query.subSelect t)).map SubSelect.shared =
      q.block.map (Query.nested t) := Block.map_map fun n _ => (n.nested_eq t).symm
  rw [Query.write, ← hblock]
  exact Shared.statement_eq t _

end PolySql
