import PolySql.Proofs.Acceptance
import PolySql.Proofs.Removal
import PolySql.Proofs.Restrict

/-!
Named queries, listed behind WITH. Main statement: every named query of a statement that its engine
sees is defined in front of the statement, and named queries of nested queries are not read: the
statement is the same without them.
-/

namespace PolySql

namespace Sql

variable {t : Target}

/-- A select reads no definitions. -/
theorem select_withoutDefinitions (isDistinct : Bool) (cs : List (Clause SubSelect)) :
    select t isDistinct (cs.filter (!isOf "cte" ·)) = select t isDistinct cs := by
  rw [select, select, expandPaths_eq, expandPaths_eq, stranded?_filter_isOf cs (by decide)]
  cases stranded? t cs with
  | some j => rfl
  | none =>
    refine selectExpanded_congr ⟨fun component hc => ?_, fun component hc => ?_⟩ isDistinct
    · apply effective_congr
      apply visible_expanded_filter_isOf cs (by decide)
      rintro rfl
      exact absurd hc (by decide)
    · apply visible_expanded_filter_isOf cs (by decide)
      rintro rfl
      exact absurd hc (by decide)

theorem subSelect_withoutDefinitions (b : Block SubSelect) :
    Sql.subSelect t (b.without "cte") = Sql.subSelect t b :=
  congrArg (SubSelect.mk b.aliasName) (select_withoutDefinitions b.isDistinct b.clauses)

end Sql

namespace Query

/-- The query without its named queries, and without those of nested queries at any depth. -/
def withoutDefinitions : Query → Query := Query.fold fun b => .ofBlock (b.without "cte")

theorem withoutDefinitions_ofBlock (b : Block Query) :
    (Query.ofBlock b).withoutDefinitions = .ofBlock ((b.map withoutDefinitions).without "cte") :=
  fold_ofBlock (fun b : Block Query => .ofBlock (b.without "cte")) b

/-- A nested query is the same select without definitions. -/
theorem subSelect_withoutDefinitions (t : Target) (q : Query) :
    q.withoutDefinitions.subSelect t = q.subSelect t := by
  induction q using Query.induction with
  | step b ih =>
    rw [withoutDefinitions_ofBlock, subSelect_eq, subSelect_eq]
    show Sql.subSelect t (((b.map withoutDefinitions).without "cte").map (subSelect t)) =
      Sql.subSelect t (b.map (subSelect t))
    rw [← Block.without_map, Sql.subSelect_withoutDefinitions, Block.map_map ih]

/-- A named query as it is written in a WITH list. -/
inductive Defines (t : Target) : Body Query → Fragment → Prop
  | verbatim {sql : Verbatim} {name : String} {body : Fragment} (hname : name ≠ "")
    (hbody : t.dialect.verbatim sql = .ok body) :
    Defines t (.table (.verbatim sql (some name)))
      (t.dialect.quote name ++ " AS " ++ Sql.paren body)
  | query {q : Query} {aliasName : Option String} {name : String} {body : Fragment}
    (hname : name ≠ "") (hrefName : (Table.derived q aliasName).refName = some name)
    (hbody : (q.subSelect t).select = .ok body) :
    Defines t (.table (.derived q aliasName)) (t.dialect.quote name ++ " AS " ++ Sql.paren body)

theorem definition_spec {d : Dialect} {aliasName : Option String}
    {query : Except CompileError Fragment} {g : Fragment}
    (h : Sql.definition d aliasName query = .ok g) :
    ∃ name body, aliasName = some name ∧ name ≠ "" ∧ query = .ok body ∧
      g = d.quote name ++ " AS " ++ Sql.paren body := by
  unfold Sql.definition at h
  split at h
  · cases h
  · cases h
  · next name hname =>
    obtain ⟨body, hbody, h⟩ := exists_of_bind_ok h
    refine ⟨name, body, rfl, ?_, hbody, (Except.ok.inj h).symm⟩
    rintro rfl
    exact hname rfl

theorem defines_of_cte {t : Target} {b : Body Query} {g : Fragment}
    (h : Sql.cte t.dialect (b.map (subSelect t)) = .ok g) : Defines t b g := by
  cases b with
  | table a =>
    cases a with
    | verbatim sql aliasName =>
      obtain ⟨name, body, rfl, hname, hbody, rfl⟩ := definition_spec h
      exact .verbatim hname hbody
    | derived q aliasName =>
      obtain ⟨name, body, hrefName, hname, hbody, rfl⟩ := definition_spec h
      refine .query hname ?_ hbody
      rw [← hrefName]
      exact (refName_map (aliasName?_subSelect t) (.derived q aliasName)).symm
    | _ => cases h
  | _ => cases h

theorem withList_spec {t : Target} {cs : List (Clause Query)} {f : Fragment}
    (h : Sql.withList t.dialect (cs.map (Scoped.map (Body.map (subSelect t)))) = .ok f) :
    ∃ definitions, List.Forall₂ (fun c g => Defines t c.item g) (visible cs "cte" t.engine)
        definitions ∧
      f = if definitions = [] then ∅
        else "WITH " ++ Fragment.separated ", " definitions ++ " " := by
  rw [Sql.withList, visible_map] at h
  split at h
  · next hnone =>
    rw [List.map_eq_nil_iff.mp hnone]
    exact ⟨[], .nil, (Except.ok.inj h).symm⟩
  · next hsome =>
    obtain ⟨definitions, hdefinitions, h⟩ := exists_of_bind_ok h
    have hall := List.forall₂_map_left_iff.mp (mapM_eq_ok_iff.mp hdefinitions)
    refine ⟨definitions, hall.imp fun c g hg => defines_of_cte hg, ?_⟩
    have hne : definitions ≠ [] := by
      rintro rfl
      rw [List.forall₂_nil_right_iff] at hall
      exact hsome (by rw [hall, List.map_nil])
    rw [if_neg hne]
    exact (Except.ok.inj h).symm

end Query

/-- No named query of a statement is lost, and none is found elsewhere. In front of a statement
stands a definition of each of its named queries that the engine sees, in their order, and what
their bodies bind comes first. The named queries of a nested query, wherever it stands, have no
effect: without them the statement is the same. -/
theorem definitions_complete {t : Target} {q : Query} {f : Fragment} (h : q.compile t = .ok f) :
    (∃ definitions sql,
      List.Forall₂ (fun c g => Query.Defines t c.item g) (visible q.block.clauses "cte" t.engine)
        definitions ∧
      Sql.command t (q.block.map (Query.subSelect t)) = .ok sql ∧
      f = (if definitions = [] then ∅
        else "WITH " ++ Fragment.separated ", " definitions ++ " ") ++ sql ∧
      f.bindings = definitions.flatMap (·.bindings) ++ sql.bindings) ∧
    (Query.ofBlock (q.block.map Query.withoutDefinitions)).compile t = .ok f := by
  refine ⟨?_, ?_⟩
  · obtain ⟨ctes, sql, hctes, hsql, rfl⟩ := Sql.statement_parts h
    obtain ⟨definitions, hdefinitions, rfl⟩ := Query.withList_spec hctes
    refine ⟨definitions, sql, hdefinitions, hsql, rfl, ?_⟩
    split
    · next hnone => rw [hnone]; rfl
    · simp [Fragment.bindings_separated]
  · rw [← h]
    exact congrArg (Sql.statement t)
      (Block.map_map fun n _ => Query.subSelect_withoutDefinitions t n)

/-- A named query of adults, which binds an age. -/
def adultsDefinition : Clause Query :=
  ⟨"cte", wildcard,
    .table (.verbatim ⟨"SELECT * FROM users WHERE age >= ?", [.value (.int 18)]⟩ (some "adults"))⟩

/-- All of the adults, next to the definition of them. -/
def definedAdults : Query :=
  .ofBlock ⟨[adultsDefinition, ⟨"from", wildcard, .table (.named "adults")⟩], .select, false, none⟩

/-- The same adults from a derived table, behind the given clauses. -/
def derivedAdults (cs : List (Clause Query)) : Query :=
  .ofBlock ⟨cs ++ [⟨"from", wildcard, .table (.derived definedAdults (some "a"))⟩], .select, false,
    none⟩

set_option maxRecDepth 20000 in
theorem derivedAdults_defined :
    (derivedAdults [adultsDefinition]).compile ⟨.sqlite, {}⟩ =
      .ok ⟨"WITH \"adults\" AS (SELECT * FROM users WHERE age >= ?) " ++
        "SELECT * FROM (SELECT * FROM \"adults\") AS \"a\"", [.int 18]⟩ ∧
      (∃ definitions sql, List.Forall₂ (fun c g => Query.Defines ⟨.sqlite, {}⟩ c.item g)
          [adultsDefinition] definitions ∧
        (⟨"WITH \"adults\" AS (SELECT * FROM users WHERE age >= ?) " ++
          "SELECT * FROM (SELECT * FROM \"adults\") AS \"a\"", [.int 18]⟩ : Fragment) =
          "WITH " ++ Fragment.separated ", " definitions ++ " " ++ sql) ∧
      (Query.ofBlock ((derivedAdults [adultsDefinition]).block.map
          Query.withoutDefinitions)).compile ⟨.sqlite, {}⟩ =
        .ok ⟨"WITH \"adults\" AS (SELECT * FROM users WHERE age >= ?) " ++
          "SELECT * FROM (SELECT * FROM \"adults\") AS \"a\"", [.int 18]⟩ := by
  have hcompile : (derivedAdults [adultsDefinition]).compile ⟨.sqlite, {}⟩ =
      .ok ⟨"WITH \"adults\" AS (SELECT * FROM users WHERE age >= ?) " ++
        "SELECT * FROM (SELECT * FROM \"adults\") AS \"a\"", [.int 18]⟩ := by rfl
  obtain ⟨⟨definitions, sql, hdefinitions, -, hf, -⟩, hwithout⟩ := definitions_complete hcompile
  have hne : definitions ≠ [] := by
    rintro rfl
    cases hdefinitions
  rw [if_neg hne] at hf
  exact ⟨hcompile, ⟨definitions, sql, hdefinitions, hf⟩, hwithout⟩

set_option maxRecDepth 20000 in
/-- Nested, the same query is written without its definition. -/
theorem derivedAdults_undefined :
    (derivedAdults []).compile ⟨.sqlite, {}⟩ =
        .ok ⟨"SELECT * FROM (SELECT * FROM \"adults\") AS \"a\"", []⟩ ∧
      definedAdults.compile ⟨.sqlite, {}⟩ =
        .ok ⟨"WITH \"adults\" AS (SELECT * FROM users WHERE age >= ?) SELECT * FROM \"adults\"",
          [.int 18]⟩ ∧
      adultsDefinition ∈ visible definedAdults.block.clauses "cte" "sqlite" ∧
      ∀ g, Query.Defines ⟨.sqlite, {}⟩ adultsDefinition.item g →
        ¬ g.PieceOf ⟨"SELECT * FROM (SELECT * FROM \"adults\") AS \"a\"", []⟩ := by
  refine ⟨by rfl, by rfl, .head _, fun g hg => ?_⟩
  rintro ⟨pre, post, hf⟩
  cases hg with
  | verbatim hname hbody =>
    have hbody' : Dialect.sqlite.verbatim
        ⟨"SELECT * FROM users WHERE age >= ?", [.value (.int 18)]⟩ =
        .ok ⟨"SELECT * FROM users WHERE age >= ?", [.int 18]⟩ := by rfl
    rw [hbody'] at hbody
    obtain rfl := Except.ok.inj hbody
    have hbindings := congrArg Fragment.bindings hf
    simp [Sql.paren] at hbindings

end PolySql
