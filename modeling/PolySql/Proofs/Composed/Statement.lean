import PolySql.Proofs.Acceptance
import PolySql.Proofs.Composed.Part
import PolySql.Proofs.Parts
import PolySql.Proofs.Portable.Inventory

/-!
Statements of plain queries. Main statement: a plain query is compiled to composed SQL, or refused.
-/

namespace PolySql

open Text Fragment

section Expansion

variable {Q : Type} [Aliased Q] {t : Target}

/-- The joins that stand for a path join nest no queries. -/
theorem nested_of_mem_expanded [Inflection] {cs : List (Clause Q)} {d : Clause Q} {q : Q}
    (hd : d ∈ expanded t cs) (hq : q ∈ d.item.nested) : ∃ c ∈ cs, q ∈ c.item.nested := by
  obtain ⟨c, hc, hd⟩ := List.mem_flatMap.mp hd
  obtain ⟨-, rfl⟩ | ⟨j, -, source, -, table, -, rfl⟩ := of_mem_replacement hd
  · exact ⟨d, hc, hq⟩
  · rw [PathJoin.nested_link] at hq
    cases hq

end Expansion

/-- Blocks whose clauses are composed, with path joins as they are and expanded. -/
structure Block.Composes (t : Target) (p : Char → Prop) (b : Block SubSelect) : Prop where
  own : ∀ c ∈ b.clauses, c.item.Composes t.dialect p
  joins : ∀ c ∈ expanded t b.clauses, c.item.Composes t.dialect p

namespace Composing

variable {t : Target} {p : Char → Prop} (law : Composing t.dialect p)

include law

section Clauses

variable {cs : List (Clause SubSelect)} (h : ∀ c ∈ cs, c.item.Composes t.dialect p)

include h

omit law in
theorem withColumns : ∀ c ∈ Sql.withColumns t cs, c.item.Composes t.dialect p := by
  unfold Sql.withColumns
  split
  · exact h
  · intro c hc
    rcases List.mem_append.mp hc with hc | hc
    · exact h c hc
    · rw [List.mem_singleton.mp hc]
      refine ⟨⟨by decide, by decide⟩, ?_⟩
      intro q hq
      cases hq

theorem selectExpanded (isDistinct : Bool) :
    Yields (·.IsComposed t.dialect p) (Sql.selectExpanded t isDistinct cs) := by
  have hall := withColumns h
  refine (Yields.trivial _).bind fun window _ => (Yields.trivial _).bind fun mode _ => ?_
  have hparts : ∀ x ∈ [Sql.aggregatePart t window isDistinct (Sql.withColumns t cs),
      Sql.columnsPart t window isDistinct (Sql.withColumns t cs),
      Sql.fromPart t (Sql.withColumns t cs), Sql.joinPart t (Sql.withColumns t cs),
      Sql.wherePart t (Sql.withColumns t cs), Sql.groupPart t (Sql.withColumns t cs),
      Sql.havingPart t (Sql.withColumns t cs), Sql.orderPart t (Sql.withColumns t cs)],
      Yields (·.IsComposed t.dialect p) x := by
    simp only [List.forall_mem_cons, List.not_mem_nil, false_implies, implies_true, and_true]
    exact ⟨law.aggregatePart hall window isDistinct, law.columnsPart hall window isDistinct,
      law.fromPart hall, law.joinPart hall, law.wherePart hall, law.groupPart hall,
      law.havingPart hall, law.orderPart hall⟩
  refine (Yields.mapM hparts).bind fun parts hparts => ?_
  refine (law.unionPart hall).bind fun unions hunions => .pure (law.sentence ?_)
  have hpaging : ∀ f ∈ [(window.bind t.dialect.limit).getD ∅,
      (window.bind t.dialect.offset).getD ∅], f.IsComposed t.dialect p :=
    List.forall_mem_cons.mpr ⟨windowPart law.limit window,
      List.forall_mem_singleton.mpr (windowPart law.offset window)⟩
  have hlock : ∀ f ∈ [unions, (((mode.bind t.dialect.lock).getD "" : String) : Fragment)],
      f.IsComposed t.dialect p :=
    List.forall_mem_cons.mpr ⟨hunions,
      List.forall_mem_singleton.mpr (.text (law.alphabet.lockText mode))⟩
  exact List.forall_mem_append.mpr ⟨List.forall_mem_append.mpr ⟨hparts, hpaging⟩, hlock⟩

theorem changedTable (change : Change) :
    Yields (·.IsComposed t.dialect p) (Sql.changedTable t change cs) := by
  unfold Sql.changedTable
  split
  · exact .of_error _
  · next name hname => exact .of_ok (law.identifier (of_effectiveItem h hname).plain)
  · exact .of_error _

theorem insert : Yields (·.IsComposed t.dialect p) (Sql.insert t cs) := by
  unfold Sql.insert
  refine (law.changedTable h .insert).bind fun target htarget => ?_
  have hinto := htarget.before (law.word (s := "INSERT INTO ") (by decide))
  split
  · next columns values hitem =>
    obtain ⟨hcolumns, hvalues⟩ := (of_effectiveItem h hitem).plain
    refine (Yields.trivial _).bind fun _ _ => .pure ?_
    have hlist := (hinto.after (law.word (s := " (") (by decide))).append
      (law.identifiers hcolumns)
    have hkeyword := hlist.after (law.word (s := ") VALUES ") (by decide))
    exact hkeyword.append (law.paren (law.bindAll hvalues))
  · next columns query hitem =>
    obtain ⟨hcolumns, hquery⟩ := of_effectiveItem h hitem
    refine (hquery query List.mem_cons_self).bind fun f hf => .pure ?_
    have hlist : IsComposed t.dialect p
        (if columns.isEmpty then "" else "(" ++ t.dialect.identifiers columns ++ ") " :
          String) := by
      split
      · exact .empty
      · exact (law.identifiers hcolumns).enclosed (law.word (by decide)) (law.word (by decide))
    exact ((hinto.after (law.word (by decide))).append hlist).append hf
  · exact .of_error _

theorem whereSuffix : Yields (·.IsComposed t.dialect p) (Sql.whereSuffix t cs) := by
  refine (law.wherePart h).bind fun f hf => .pure ?_
  exact .ite (fun _ => hf) fun _ => hf.before (law.word (by decide))

omit h in
theorem assignments {columns : List String} {values : List Bound} (hc : ∀ s ∈ columns, IsName s)
    (hv : ∀ b ∈ values, b.IsValue) :
    (Sql.assignments t columns values).IsComposed t.dialect p := by
  refine .separated (law.word (by decide)) fun f hf => ?_
  obtain ⟨⟨column, value⟩, hpair, rfl⟩ := List.mem_map.mp hf
  obtain ⟨hcolumn, hvalue⟩ := List.of_mem_zip hpair
  exact ((law.identifier (hc column hcolumn)).after (law.word (by decide))).append
    (bound (hv value hvalue))

theorem update : Yields (·.IsComposed t.dialect p) (Sql.update t cs) := by
  unfold Sql.update
  refine (law.changedTable h .update).bind fun target htarget => ?_
  split
  · next columns values hitem =>
    obtain ⟨hcolumns, hvalues⟩ := (of_effectiveItem h hitem).plain
    refine (Yields.trivial _).bind fun _ _ => (law.whereSuffix h).bind fun f hf => .pure ?_
    have hset := (htarget.before (law.word (s := "UPDATE ") (by decide))).after
      (law.word (s := " SET ") (by decide))
    exact (hset.append (law.assignments hcolumns hvalues)).append hf
  · exact .of_error _

theorem delete : Yields (·.IsComposed t.dialect p) (Sql.delete t cs) := by
  refine (law.changedTable h .delete).bind fun target htarget => ?_
  refine (law.whereSuffix h).bind fun f hf => .pure ?_
  exact (htarget.before (law.word (by decide))).append hf

theorem withList : Yields (·.IsComposed t.dialect p) (Sql.withList t.dialect cs) := by
  rw [Sql.withList_eq_ite]
  split
  · refine (each h law.cte "cte").bind fun fs hfs => .pure ?_
    have hlist := IsComposed.separated (s := ", ") (law.word (by decide)) hfs
    exact (hlist.before (law.word (by decide))).after (law.word (by decide))
  · exact .of_ok .empty

end Clauses

section Blocks

variable {b : Block SubSelect} (h : b.Composes t p)

include h

theorem select :
    Yields (·.IsComposed t.dialect p) (Sql.select t b.isDistinct b.clauses) := by
  intro f hf
  exact law.selectExpanded h.joins b.isDistinct f (Sql.selectExpanded_of_select hf)

theorem statement : Yields (·.IsComposed t.dialect p) (Sql.statement t b) := by
  refine (law.withList h.own).bind fun ctes hctes => ?_
  have hbody : ∀ {x : Except CompileError Fragment}, Yields (·.IsComposed t.dialect p) x →
      Yields (·.IsComposed t.dialect p) (x >>= fun sql => pure (ctes ++ sql)) :=
    fun hx => hx.bind fun f hf => .pure (hctes.append hf)
  split
  · exact hbody (law.insert h.own)
  · exact hbody (law.update h.own)
  · exact hbody (law.delete h.own)
  · exact hbody (law.select h)

end Blocks

end Composing

namespace Query.Plain

variable {t : Target} {p : Char → Prop} {q : Query}

theorem block (h : q.Plain p t)
    (hnested : ∀ n ∈ q.block.nested, (n.subSelect t).IsComposed t.dialect p) :
    (q.block.map (Query.subSelect t)).Composes t p := by
  cases h with
  | @ofBlock b own joins nested =>
    -- The same argument for the clauses as they are and for those that replace path joins.
    have hmapped : ∀ {cs : List (Clause Query)}, (∀ c ∈ cs, c.item.Plain p) →
        (∀ c ∈ cs, ∀ n ∈ c.item.nested, (n.subSelect t).IsComposed t.dialect p) →
        ∀ c ∈ cs.map (Scoped.map (Body.map (Query.subSelect t))),
          c.item.Composes t.dialect p := by
      intro cs hplain hquery
      rw [List.forall_mem_map]
      intro c hc
      refine ⟨(hplain c hc).map _, ?_⟩
      show ∀ s ∈ (c.item.map (Query.subSelect t)).nested, s.IsComposed t.dialect p
      rw [Body.nested_map]
      exact List.forall_mem_map.mpr (hquery c hc)
    have hown : ∀ c ∈ b.clauses, ∀ n ∈ c.item.nested,
        (n.subSelect t).IsComposed t.dialect p :=
      fun c hc n hn => hnested n (List.mem_flatMap.mpr ⟨c, hc, hn⟩)
    refine ⟨hmapped own hown, ?_⟩
    show ∀ c ∈ expanded t (b.clauses.map (Scoped.map (Body.map (Query.subSelect t)))), _
    rw [expanded_map (Query.aliasName?_subSelect t)]
    refine hmapped joins fun d hd n hn => ?_
    obtain ⟨c, hc, hn⟩ := nested_of_mem_expanded hd hn
    exact hown c hc n hn

variable (law : Composing t.dialect p)

include law

theorem subSelect (h : q.Plain p t) : (q.subSelect t).IsComposed t.dialect p := by
  induction h with
  | ofBlock own joins nested ih =>
    rw [Query.subSelect_eq]
    exact law.select (block (.ofBlock own joins nested) ih)

/-- What a plain query is compiled to is put together from words, names in quotes and bound
values. -/
theorem compile (h : q.Plain p t) : Yields (·.IsComposed t.dialect p) (q.compile t) := by
  have hnested : ∀ n ∈ q.block.nested, n.Plain p t := by
    cases h with
    | ofBlock own joins nested => exact nested
  exact law.statement (h.block fun n hn => (hnested n hn).subSelect law)

end Query.Plain

end PolySql
