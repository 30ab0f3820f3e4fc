import Mathlib.Logic.Relation
import PolySql.Proofs.Filter

/-!
Nested queries in the statement around them. Main statement: wherever a query is written, at any
depth, the statement contains the select that it is compiled to, with its bindings in one block.
-/

namespace PolySql

section Shown

variable {Q : Type} (engine : String)

/-- The queries that are written with the tests that the engine sees. -/
def leafQueries (leaves : List (Leaf Q)) : List Q := leaves.flatMap (·.test.nested)

/-- The queries that are written with a clause. -/
def Body.queries : Body Q → List Q
  | .table a => a.nested
  | .join (.explicit j) =>
    j.table.item.nested ++ leafQueries (Condition.leavesOf engine j.conditions)
  | .column c => c.nested
  | .insert i => i.nested
  | .union u => u.nested
  | .condition c => leafQueries (c.leaves engine)
  | _ => []

variable (t : Target)

/-- A select over clauses without path joins writes the query. -/
inductive Selects (cs : List (Clause Q)) (n : Q) : Prop
  | column (c : Clause Q) (haggregate : visible cs "aggregate" t.engine = [])
    (hc : c ∈ visible cs "select" t.engine) (hn : n ∈ c.item.queries t.engine)
  | table (b : Body Q) (hb : effectiveItem cs "from" t.engine = some b)
    (hn : n ∈ b.queries t.engine)
  | filter (c : Clause Q) (hfrom : visible cs "from" t.engine ≠ [])
    (hc : c ∈ visible cs "where" t.engine) (hn : n ∈ c.item.queries t.engine)
  | listed (component : String) (c : Clause Q)
    (hcomponent : component ∈ ["join", "group", "having", "union"])
    (hc : c ∈ visible cs component t.engine) (hn : n ∈ c.item.queries t.engine)

/-- A statement writes the query, not inside of another one. -/
inductive Block.States [Aliased Q] (b : Block Q) (n : Q) : Prop
  | definition (c : Clause Q) (hc : c ∈ visible b.clauses "cte" t.engine)
    (hn : n ∈ c.item.queries t.engine)
  | select (hmethod : b.method = .select) (hn : Selects t (expanded t b.clauses) n)
  | source (hmethod : b.method = .change .insert) (s : Body Q)
    (hs : effectiveItem b.clauses "insert" t.engine = some s) (hn : n ∈ s.queries t.engine)
  | filter (change : Change) (hmethod : b.method = .change change) (hchange : change ≠ .insert)
    (c : Clause Q) (hc : c ∈ visible b.clauses "where" t.engine) (hn : n ∈ c.item.queries t.engine)

end Shown

section Map

variable {Q R : Type} (engine : String) (f : Q → R)

theorem leafQueries_map (leaves : List (Leaf Q)) :
    leafQueries (leaves.map (Leaf.map f)) = (leafQueries leaves).map f := by
  simp only [leafQueries, List.flatMap_map, List.map_flatMap, Leaf.map, Test.nested_map]

theorem Body.queries_map (b : Body Q) : (b.map f).queries engine = (b.queries engine).map f := by
  cases b with
  | table a => exact a.nested_map f
  | join j =>
    cases j with
    | explicit j =>
      have hgroup := Condition.leaves_map engine f (.group ⟨false, false⟩ j.conditions)
      simp only [Condition.map, Condition.mapMembers_eq, Condition.leaves] at hgroup
      simp only [Body.map, JoinClause.map, Join.map, Scoped.map, Body.queries, List.map_append,
        Table.nested_map, ← leafQueries_map, ← hgroup]
    | _ => rfl
  | column c => cases c <;> rfl
  | insert i => cases i <;> rfl
  | union u => cases u <;> rfl
  | condition c =>
    simp only [Body.map, Body.queries, Condition.leaves_map, leafQueries_map]
  | _ => rfl

variable {f} {t : Target} {n : Q}

theorem mem_queries_map {b : Body Q} (h : n ∈ b.queries engine) :
    f n ∈ (b.map f).queries engine := by
  rw [Body.queries_map]
  exact List.mem_map_of_mem h

theorem mem_visible_map {cs : List (Clause Q)} {component : String} {c : Clause Q}
    (h : c ∈ visible cs component engine) :
    c.map (Body.map f) ∈ visible (cs.map (Scoped.map (Body.map f))) component engine := by
  rw [visible_map]
  exact List.mem_map_of_mem h

theorem Selects.map {cs : List (Clause Q)} (h : Selects t cs n) :
    Selects t (cs.map (Scoped.map (Body.map f))) (f n) := by
  cases h with
  | column c haggregate hc hn =>
    have hmapped : visible (cs.map (Scoped.map (Body.map f))) "aggregate" t.engine = [] := by
      rw [visible_map, haggregate]
      rfl
    exact .column _ hmapped (mem_visible_map _ hc) (mem_queries_map _ hn)
  | table b hb hn =>
    exact .table _ (by rw [effectiveItem_map, hb]; rfl) (mem_queries_map _ hn)
  | filter c hfrom hc hn =>
    have hmapped : visible (cs.map (Scoped.map (Body.map f))) "from" t.engine ≠ [] := by
      rwa [visible_map, ne_eq, List.map_eq_nil_iff]
    exact .filter _ hmapped (mem_visible_map _ hc) (mem_queries_map _ hn)
  | listed component c hcomponent hc hn =>
    exact .listed component _ hcomponent (mem_visible_map _ hc) (mem_queries_map _ hn)

theorem Block.States.map [Aliased Q] [Aliased R] (hf : ∀ q, aliasName? (f q) = aliasName? q)
    {b : Block Q} (h : b.States t n) : (b.map f).States t (f n) := by
  cases h with
  | definition c hc hn => exact .definition _ (mem_visible_map _ hc) (mem_queries_map _ hn)
  | select hmethod hn =>
    refine .select hmethod ?_
    rw [Block.map, expanded_map hf]
    exact hn.map
  | source hmethod s hs hn =>
    exact .source hmethod _ (by rw [Block.map, effectiveItem_map, hs]; rfl) (mem_queries_map _ hn)
  | filter change hmethod hchange c hc hn =>
    exact .filter change hmethod hchange _ (mem_visible_map _ hc) (mem_queries_map _ hn)

end Map

/-- A nested query writes another one as a part of its select. -/
def Query.Holds (t : Target) (m n : Query) : Prop := Selects t (expanded t m.block.clauses) n

/-- The statement of a query writes another one, at any depth. -/
def Query.Renders (t : Target) (q n : Query) : Prop :=
  ∃ m, q.block.States t m ∧ Relation.ReflTransGen (Query.Holds t) m n

namespace SubSelect

/-- A nested query has been compiled, and stands in the fragment. -/
def In (s : SubSelect) (f : Fragment) : Prop := ∃ g, s.select = .ok g ∧ g.PieceOf f

variable {s : SubSelect} {f e : Fragment}

theorem In.of_ok (h : s.select = .ok f) : s.In f := ⟨f, h, .refl f⟩

theorem In.mono (h : s.In f) (hfe : f.PieceOf e) : s.In e := by
  obtain ⟨g, hg, hpiece⟩ := h
  exact ⟨g, hg, hpiece.trans hfe⟩

theorem In.append_left (h : s.In f) (e : Fragment) : s.In (e ++ f) :=
  h.mono ((Fragment.PieceOf.refl f).append_left e)

theorem In.append_right (h : s.In f) (e : Fragment) : s.In (f ++ e) :=
  h.mono ((Fragment.PieceOf.refl f).append_right e)

/-- A nested query is not blank at its ends, if it is compiled at all. -/
abbrev IsSolid (s : SubSelect) : Prop := ∀ g, s.select = .ok g → Solid g.text

theorem In.ne_empty (h : s.In f) (hs : s.IsSolid) : f.text ≠ "" := by
  obtain ⟨g, hg, pre, post, rfl⟩ := h
  simp [String.append_eq_empty_iff, (hs g hg).nonempty]

theorem In.strip (h : s.In f) (hs : s.IsSolid) : s.In f.strip := by
  obtain ⟨g, hg, hpiece⟩ := h
  exact ⟨g, hg, hpiece.strip (hs g hg)⟩

end SubSelect

namespace Sql

open SubSelect

section Clauses

variable {d : Dialect} {s : SubSelect} {f : Fragment}

theorem in_paren (h : s.In f) : s.In (paren f) := (h.append_left _).append_right _

theorem in_negated (h : s.In f) (isNot : Bool) : s.In (negated isNot f) := by
  cases isNot with
  | false => exact h
  | true => exact (h.append_left _).append_right _

theorem in_test {isNot : Bool} {t : Test SubSelect} (hs : s ∈ t.nested)
    (h : test d isNot t = .ok f) : s.In f := by
  cases t with
  | subquery column operator query =>
    obtain rfl := List.mem_singleton.mp hs
    obtain ⟨g, hg, rfl⟩ := exists_of_bind_pure h
    exact in_negated ((in_paren (.of_ok hg)).append_left _) isNot
  | oneOfQuery column query =>
    obtain rfl := List.mem_singleton.mp hs
    obtain ⟨g, hg, rfl⟩ := exists_of_bind_pure h
    exact (in_paren (.of_ok hg)).append_left _
  | nonempty query =>
    obtain rfl := List.mem_singleton.mp hs
    obtain ⟨g, hg, rfl⟩ := exists_of_bind_pure h
    exact (in_paren (.of_ok hg)).append_left _
  | _ => cases hs

theorem in_table {a : Table SubSelect} (hs : s ∈ a.nested) (h : table d a = .ok f) : s.In f := by
  cases a with
  | derived query aliasName =>
    obtain rfl := List.mem_singleton.mp hs
    obtain ⟨g, hg, rfl⟩ := exists_of_bind_pure h
    exact (in_paren (.of_ok hg)).append_right _
  | _ => cases hs

theorem in_tableOf {b : Body SubSelect} (hs : s ∈ b.queries d.name) (h : tableOf d b = .ok f) :
    s.In f := by
  cases b with
  | table a => exact in_table hs h
  | _ => cases h

theorem in_column {b : Body SubSelect} (hs : s ∈ b.queries d.name) (h : column d b = .ok f) :
    s.In f := by
  cases b with
  | column c =>
    cases c with
    | subquery query =>
      obtain rfl := List.mem_singleton.mp hs
      obtain ⟨g, hg, rfl⟩ := exists_of_bind_pure h
      exact (in_paren (.of_ok hg)).append_right _
    | _ => cases hs
  | _ => cases h

/-- Items in a row that are written one by one. -/
theorem in_separated {α : Type} {write : α → Except CompileError Fragment} {as : List α} {a : α}
    {separator : String} (h : Fragment.separated separator <$> as.mapM write = .ok f) (ha : a ∈ as)
    (hwrite : ∀ g, write a = .ok g → s.In g) : s.In f := by
  obtain ⟨gs, hgs, rfl⟩ := exists_of_map_ok h
  obtain ⟨g, hg, hrun⟩ := exists_of_mem_of_mapM_ok hgs ha
  exact (hwrite g hrun).mono (.separated hg separator)

theorem in_definition {aliasName : Option String} (h : definition d aliasName s.select = .ok f) :
    s.In f := by
  unfold definition at h
  split at h
  · cases h
  · cases h
  · obtain ⟨g, hg, rfl⟩ := exists_of_bind_pure h
    exact (in_paren (.of_ok hg)).append_left _

theorem in_cte {b : Body SubSelect} (hs : s ∈ b.queries d.name) (h : cte d b = .ok f) :
    s.In f := by
  cases b with
  | table a =>
    cases a with
    | derived query aliasName =>
      obtain rfl := List.mem_singleton.mp hs
      exact in_definition h
    | _ => cases hs
  | _ => cases h

theorem in_union {t : Target} {b : Body SubSelect} (hs : s ∈ b.queries t.engine)
    (h : union t b = .ok f) : s.In f := by
  cases b with
  | union u =>
    cases u with
    | operand operation all query =>
      obtain rfl := List.mem_singleton.mp hs
      obtain ⟨g, hg, rfl⟩ := exists_of_bind_pure h
      exact (In.of_ok hg).append_left _
    | _ => cases hs
  | _ => cases h

variable (hsolid : s.IsSolid)

include hsolid

/-- What displays leaves contains the queries that are written with them. -/
theorem in_displays {leaves : List (Leaf SubSelect)} (hs : s ∈ leafQueries leaves)
    (h : Displays d leaves f) : s.In f := by
  obtain ⟨leaf, hleaf, hs⟩ := List.mem_flatMap.mp hs
  obtain ⟨gs, hgs, hf⟩ := h
  obtain ⟨g, hg, e, htest, rfl⟩ := exists_mem_of_forall₂ hgs hleaf
  have hin : s.In e.strip := (in_test hs htest).strip hsolid
  have hshown : e.strip ∈ gs.filter (·.text ≠ "") :=
    List.mem_filter.mpr ⟨hg, by simpa using hin.ne_empty hsolid⟩
  exact hin.mono (hf.pieces.pieceOf hshown)

theorem in_connect {cs : List (Clause SubSelect)} {terms : List Term} {c : Clause SubSelect}
    {lead : String} (h : cs.mapM (clauseTerm d) = .ok terms) (hc : c ∈ cs)
    (hs : s ∈ c.item.queries d.name) : s.In (connect lead terms) := by
  have hdisplays := displays_terms h (fun c _ term => displays_clauseTerm) lead
  refine in_displays hsolid ?_ hdisplays
  have hleaves : s ∈ leafQueries (c.item.leaves d.name) := by
    obtain ⟨term, -, hterm⟩ := exists_of_mem_of_mapM_ok h hc
    obtain ⟨cond, f, hcond, -, -⟩ := exists_of_clauseTerm hterm
    rw [hcond] at hs ⊢
    exact hs
  obtain ⟨leaf, hleaf, hs⟩ := List.mem_flatMap.mp hleaves
  exact List.mem_flatMap.mpr ⟨leaf, List.mem_flatMap.mpr ⟨c, hc, hleaf⟩, hs⟩

theorem in_join {b : Body SubSelect} (hs : s ∈ b.queries d.name) (h : join d b = .ok f) :
    s.In f := by
  cases b with
  | join j =>
    cases j with
    | explicit j =>
      obtain ⟨target, htarget, h⟩ := exists_of_bind_ok h
      obtain ⟨terms, hterms, rfl⟩ := exists_of_bind_pure h
      rcases List.mem_append.mp hs with hs | hs
      · have htable : s.In target := in_table hs htarget
        split
        · exact (htable.append_left _).append_right _
        · exact ((htable.append_left _).append_right _).append_right _
      · have hon := in_displays hsolid hs (displays_memberTerms hterms)
        split <;> exact hon.append_left _
    | _ => cases hs
  | _ => cases h

end Clauses

section Parts

variable {t : Target} {s : SubSelect} {isDistinct : Bool} {window : Option Window}
  {cs : List (Clause SubSelect)} {c : Clause SubSelect} {f : Fragment}

theorem in_fromPart {b : Body SubSelect} (hb : effectiveItem cs "from" t.engine = some b)
    (hs : s ∈ b.queries t.engine) (h : fromPart t cs = .ok f) : s.In f := by
  rw [fromPart, hb] at h
  obtain ⟨g, hg, rfl⟩ := exists_of_bind_pure h
  exact (in_tableOf hs hg).append_left _

theorem in_columns (hc : c ∈ cs) (hs : s ∈ c.item.queries t.engine)
    (h : columns t.dialect cs = .ok f) : s.In f :=
  in_separated h hc fun _ => in_column hs

theorem in_columnsPart (haggregate : visible cs "aggregate" t.engine = [])
    (hc : c ∈ visible cs "select" t.engine) (hs : s ∈ c.item.queries t.engine)
    (h : columnsPart t window isDistinct cs = .ok f) : s.In f := by
  have hseen := (anyVisible_iff _ _ _).mpr (List.ne_nil_of_mem hc)
  rw [columnsPart_of_columns haggregate hseen] at h
  obtain ⟨list, hlist, rfl⟩ := exists_of_bind_pure h
  refine In.append_left ?_ _
  have hin := in_columns hc hs hlist
  split
  · exact hin.append_right _
  · exact hin

theorem in_groupPart (hc : c ∈ visible cs "group" t.engine) (hs : s ∈ c.item.queries t.engine)
    (h : groupPart t cs = .ok f) : s.In f := by
  rw [groupPart_eq_ite, if_pos ((anyVisible_iff _ _ _).mpr (List.ne_nil_of_mem hc))] at h
  obtain ⟨list, hlist, rfl⟩ := exists_of_bind_pure h
  exact (in_columns hc hs hlist).append_left _

theorem in_unionPart (hc : c ∈ visible cs "union" t.engine) (hs : s ∈ c.item.queries t.engine)
    (h : unionPart t cs = .ok f) : s.In f :=
  in_separated h hc fun _ => in_union hs

variable (hsolid : s.IsSolid)

include hsolid

theorem in_joinPart (hc : c ∈ visible cs "join" t.engine) (hs : s ∈ c.item.queries t.engine)
    (h : joinPart t cs = .ok f) : s.In f :=
  in_separated h hc fun _ => in_join hsolid hs

theorem in_wherePart (hfrom : visible cs "from" t.engine ≠ [])
    (hc : c ∈ visible cs "where" t.engine) (hs : s ∈ c.item.queries t.engine)
    (h : wherePart t cs = .ok f) : s.In f := by
  rw [wherePart, if_pos ((anyVisible_iff _ _ _).mpr hfrom)] at h
  obtain ⟨terms, hterms, rfl⟩ := exists_of_bind_pure h
  have hin : s.In (connect "" terms) := in_connect hsolid hterms hc hs
  split
  · exact hin
  · exact hin.append_left _

theorem in_havingPart (hc : c ∈ visible cs "having" t.engine) (hs : s ∈ c.item.queries t.engine)
    (h : havingPart t cs = .ok f) : s.In f := by
  obtain ⟨terms, hterms, rfl⟩ := exists_of_map_ok h
  exact in_connect hsolid hterms hc hs

/-- Every query that a select writes is in one of its parts. -/
theorem exists_clausePart (hs : Selects t cs s) (window : Option Window) (isDistinct : Bool) :
    ∃ x ∈ clauseParts t window isDistinct cs, ∀ f, x = .ok f → s.In f := by
  cases hs with
  | column c haggregate hc hs =>
    exact ⟨columnsPart t window isDistinct cs, by simp [clauseParts],
      fun f => in_columnsPart haggregate hc hs⟩
  | table b hb hs => exact ⟨fromPart t cs, by simp [clauseParts], fun f => in_fromPart hb hs⟩
  | filter c hfrom hc hs =>
    exact ⟨wherePart t cs, by simp [clauseParts], fun f => in_wherePart hsolid hfrom hc hs⟩
  | listed component c hcomponent hc hs =>
    simp only [List.mem_cons, List.not_mem_nil, or_false] at hcomponent
    rcases hcomponent with rfl | rfl | rfl | rfl
    · exact ⟨joinPart t cs, by simp [clauseParts], fun f => in_joinPart hsolid hc hs⟩
    · exact ⟨groupPart t cs, by simp [clauseParts], fun f => in_groupPart hc hs⟩
    · exact ⟨havingPart t cs, by simp [clauseParts], fun f => in_havingPart hsolid hc hs⟩
    · exact ⟨unionPart t cs, by simp [clauseParts], fun f => in_unionPart hc hs⟩

omit hsolid in
/-- The column for all columns writes no query, and takes no place that another one has. -/
theorem selects_withColumns (hs : Selects t cs s) : Selects t (withColumns t cs) s := by
  cases hs with
  | column c haggregate hc hs =>
    rw [withColumns_of_visible (List.ne_nil_of_mem hc)]
    exact .column c haggregate hc hs
  | table b hb hs =>
    exact .table b (by rwa [effectiveItem_congr (visible_withColumns (by decide))]) hs
  | filter c hfrom hc hs =>
    rw [← visible_withColumns (by decide)] at hfrom hc
    exact .filter c hfrom hc hs
  | listed component c hcomponent hc hs =>
    have hother : component ≠ "select" := by
      rintro rfl
      simp at hcomponent
    rw [← visible_withColumns hother] at hc
    exact .listed component c hcomponent hc hs

theorem in_select (hs : Selects t (expanded t cs) s) (h : select t isDistinct cs = .ok f) :
    s.In f := by
  obtain ⟨window, parts, rfl, hparts⟩ := selectExpanded_parts (selectExpanded_of_select h)
  obtain ⟨x, hx, hin⟩ :=
    exists_clausePart hsolid (selects_withColumns hs) window isDistinct
  obtain ⟨p, hp, rfl⟩ := hparts x hx
  exact ((hin p rfl).strip hsolid).mono (.sentence hp)

omit hsolid in
theorem in_insert {b : Body SubSelect} (hb : effectiveItem cs "insert" t.engine = some b)
    (hs : s ∈ b.queries t.engine) (h : insert t cs = .ok f) : s.In f := by
  obtain ⟨target, -, h⟩ := exists_of_bind_ok h
  rw [hb] at h
  split at h
  · next hrow =>
    obtain rfl := Option.some.inj hrow
    cases hs
  · next hrows =>
    obtain rfl := Option.some.inj hrows
    obtain rfl := List.mem_singleton.mp hs
    obtain ⟨g, hg, rfl⟩ := exists_of_bind_pure h
    exact (In.of_ok hg).append_left _
  · cases h

omit hsolid in
theorem in_withList (hc : c ∈ visible cs "cte" t.engine) (hs : s ∈ c.item.queries t.engine)
    (h : withList t.dialect cs = .ok f) : s.In f := by
  rw [withList_eq_ite, if_pos ((anyVisible_iff _ _ _).mpr (List.ne_nil_of_mem hc))] at h
  obtain ⟨definitions, hdefinitions, rfl⟩ := exists_of_bind_pure h
  obtain ⟨g, hg, hrun⟩ := exists_of_mem_of_mapM_ok hdefinitions hc
  have hlist := (in_cte hs hrun).mono (.separated hg ", ")
  exact (hlist.append_left _).append_right _

theorem in_statement {b : Block SubSelect} (hs : b.States t s) (h : statement t b = .ok f) :
    s.In f := by
  obtain ⟨ctes, sql, hctes, hsql, rfl⟩ := statement_parts h
  obtain ⟨cs, method, isDistinct, aliasName⟩ := b
  cases hs with
  | definition c hc hs => exact (in_withList hc hs hctes).append_right sql
  | select hmethod hs =>
    obtain rfl : method = .select := hmethod
    exact (in_select hsolid hs hsql).append_left ctes
  | source hmethod b hb hs =>
    obtain rfl : method = .change .insert := hmethod
    exact (in_insert hb hs hsql).append_left ctes
  | filter change hmethod hchange c hc hs =>
    obtain rfl : method = .change change := hmethod
    have hfilter : visible cs "from" t.engine ≠ [] ∧
        ∃ w, wherePart t cs = .ok w ∧ w.PieceOf sql := by
      cases change with
      | insert => exact absurd rfl hchange
      | update => exact exists_wherePart_of_update hsql
      | delete => exact exists_wherePart_of_delete hsql
    obtain ⟨hfrom, w, hw, hpiece⟩ := hfilter
    exact ((in_wherePart hsolid hfrom hc hs hw).mono hpiece).append_left ctes

end Parts

end Sql

namespace Query

variable {t : Target}

theorem isSolid_subSelect (n : Query) : (n.subSelect t).IsSolid := by
  intro g hg
  rw [subSelect_eq] at hg
  exact Sql.solid_select hg

theorem in_of_holds {m n : Query} {f : Fragment} (h : m.Holds t n)
    (hm : (m.subSelect t).select = .ok f) : (n.subSelect t).In f := by
  rw [subSelect_eq] at hm
  refine Sql.in_select (isSolid_subSelect n) ?_ hm
  rw [Block.map, expanded_map (aliasName?_subSelect t)]
  exact Selects.map h

/-- What stands in a nested query stands in every fragment that the nested query stands in. -/
theorem in_of_reflTransGen {m n : Query} {f : Fragment}
    (h : Relation.ReflTransGen (Query.Holds t) m n) (hm : (m.subSelect t).In f) :
    (n.subSelect t).In f := by
  induction h with
  | refl => exact hm
  | tail _ hstep ih =>
    obtain ⟨g, hg, hpiece⟩ := ih
    exact (in_of_holds hstep hg).mono hpiece

/-- A query that a statement renders stands in it. -/
theorem in_of_renders {q n : Query} {f : Fragment} (h : q.Renders t n) (hq : q.compile t = .ok f) :
    (n.subSelect t).In f := by
  obtain ⟨m, hm, hn⟩ := h
  exact in_of_reflTransGen hn
    (Sql.in_statement (isSolid_subSelect m) (hm.map (aliasName?_subSelect t)) hq)

end Query

end PolySql
