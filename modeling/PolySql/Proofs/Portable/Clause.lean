import Mathlib.Data.List.Find
import PolySql.Proofs.Columns
import PolySql.Proofs.Portable.Law

/-!
Clauses for targets that bind alike. Main statements: each kind of clause binds alike, and both
targets look up the same clauses.
-/

namespace PolySql

/-- What is asked of a clause so that it binds alike. -/
structure Body.Ported (t t' : Target) (err : CompileError → CompileError → Prop)
    (r : List Json → List Json → Prop) (paged : Window → Prop) (b : Body Query) : Prop where
  scope : ∀ e ∈ b.engines, SameScope t t' e
  window : ∀ w ∈ b.window?, paged w
  nested : ∀ q ∈ b.nested, q.Ported t t' err r

/-- Clauses that both targets see or neither, and that bind alike. -/
def PortedClauses (t t' : Target) (err : CompileError → CompileError → Prop)
    (r : List Json → List Json → Prop) (paged : Window → Prop) (cs : List (Clause Query)) : Prop :=
  ∀ c ∈ cs, SameScope t t' c.engine ∧ c.item.Ported t t' err r paged

/-- Clauses with the queries nested in them compiled as selects. -/
abbrev subSelects (t : Target) (cs : List (Clause Query)) : List (Clause SubSelect) :=
  cs.map (Scoped.map (Body.map (Query.subSelect t)))

/-- Only path joins are of their kind. -/
theorem Body.eq_path_of_kind {b : Body Query} (h : b.kind = "DeepJoinClause") :
    ∃ j, b = .join (.path j) := by
  cases b with
  | join j =>
    cases j with
    | path j => exact ⟨j, rfl⟩
    | _ => simp [Body.kind, JoinClause.kind] at h
  | table a => cases a <;> simp [Body.kind, Table.kind] at h
  | column c => cases c <;> simp [Body.kind, Column.kind] at h
  | order i => cases i <;> simp [Body.kind, OrderItem.kind] at h
  | insert i => cases i <;> simp [Body.kind, Insert.kind] at h
  | union u => cases u <;> simp [Body.kind, Union.kind] at h
  | condition c =>
    cases c with
    | test flags c => cases c <;> simp [Body.kind, Condition.kind, Test.kind] at h
    | group flags members => simp [Body.kind, Condition.kind] at h
  | _ => simp [Body.kind] at h

namespace Portable

variable {t t' : Target} {err : CompileError → CompileError → Prop}
  {r : List Json → List Json → Prop} {paged : Window → Prop} (law : Portable t t' err r paged)

section Body

include law

theorem wrongKind (b : Body Query) (place : Section) (h : place ≠ .join) :
    err (.unrecognized (b.map (Query.subSelect t)).kind place)
      (.unrecognized (b.map (Query.subSelect t')).kind place) := by
  rw [Body.kind_map, Body.kind_map]
  exact law.unrecognized _ h

theorem table {a : Table Query} (h : ∀ q ∈ a.nested, q.Ported t t' err r) :
    Concur err (BindAlike r) (Sql.table t.dialect (a.map (Query.subSelect t)))
      (Sql.table t'.dialect (a.map (Query.subSelect t'))) := by
  cases a with
  | base =>
    simp only [Table.map, Sql.table]
    exact .error (law.unrecognized _ (by decide))
  | named name => exact .ok (law.of_eq rfl)
  | verbatim sql aliasName => exact law.verbatim sql
  | derived query aliasName =>
    exact (h query List.mem_cons_self).bind fun f f' hf => .pure (by simpa [BindAlike] using hf)

variable {b : Body Query} (h : b.Ported t t' err r paged)

include h

theorem tableOf : Concur err (BindAlike r) (Sql.tableOf t.dialect (b.map (Query.subSelect t)))
    (Sql.tableOf t'.dialect (b.map (Query.subSelect t'))) := by
  have hkind := law.wrongKind b .table (by decide)
  cases b with
  | table a => exact law.table h.nested
  | _ => exact .error hkind

theorem join (hpath : ∀ j, b ≠ .join (.path j)) :
    Concur err (BindAlike r) (Sql.join t.dialect (b.map (Query.subSelect t)))
      (Sql.join t'.dialect (b.map (Query.subSelect t'))) := by
  have hkind : err (.unrecognized (b.map (Query.subSelect t)).kind .join)
      (.unrecognized (b.map (Query.subSelect t')).kind .join) := by
    rw [Body.kind_map, Body.kind_map]
    refine law.refused _ fun heq => ?_
    obtain ⟨j, hj⟩ := Body.eq_path_of_kind (CompileError.unrecognized.inj heq).1
    exact hpath j hj
  cases b with
  | join j =>
    cases j with
    | explicit j =>
      obtain ⟨hscope, -, hnested⟩ := h
      simp only [Body.nested, JoinClause.nested, List.mem_append] at hnested
      simp only [Body.map, JoinClause.map, Join.map, Scoped.map, Sql.join]
      refine (law.table fun q hq => hnested q (.inl hq)).bind fun f f' hf => ?_
      refine (law.conditions hscope fun q hq => hnested q (.inr hq)).bind
        fun terms terms' hterms => .pure ?_
      have hboth := law.append hf hterms
      simpa [BindAlike, apply_ite Fragment.bindings, bindings_connect] using hboth
    | _ => exact .error hkind
  | _ => exact .error hkind

theorem column : Concur err (BindAlike r) (Sql.column t.dialect (b.map (Query.subSelect t)))
    (Sql.column t'.dialect (b.map (Query.subSelect t'))) := by
  have hkind := law.wrongKind b .column (by decide)
  cases b with
  | column c =>
    cases c with
    | base => exact .error hkind
    | named name => exact .ok (law.of_eq rfl)
    | verbatim sql => exact law.verbatim sql
    | subquery query =>
      exact (h.nested query List.mem_cons_self).bind fun f f' hf => .pure (by
        simpa [BindAlike] using hf)
  | _ => exact .error hkind

theorem cte : Concur err (BindAlike r) (Sql.cte t.dialect (b.map (Query.subSelect t)))
    (Sql.cte t'.dialect (b.map (Query.subSelect t'))) := by
  have hkind := law.wrongKind b .cte (by decide)
  -- A definition without a name is refused before its query is looked at.
  have hdefinition : ∀ (aliasName : Option String) {x y : Except CompileError Fragment},
      Concur err (BindAlike r) x y →
        Concur err (BindAlike r) (Sql.definition t.dialect aliasName x)
          (Sql.definition t'.dialect aliasName y) := by
    intro aliasName x y hquery
    unfold Sql.definition
    split
    · exact .error (law.refused _ (by simp))
    · exact .error (law.refused _ (by simp))
    · exact hquery.bind fun f f' hf => .pure (by simpa [BindAlike] using hf)
  cases b with
  | table a =>
    cases a with
    | verbatim sql aliasName => exact hdefinition aliasName (law.verbatim sql)
    | derived query aliasName =>
      have hname : (Table.derived (query.subSelect t) aliasName).refName =
          (Table.derived (query.subSelect t') aliasName).refName := by
        simp only [Table.refName, Query.aliasName?_subSelect]
      simp only [Body.map, Table.map, Sql.cte, hname]
      exact hdefinition _ (h.nested query List.mem_cons_self)
    | _ => exact .error hkind
  | _ => exact .error hkind

theorem orderItem : Concur err (BindAlike r) (Sql.orderItem t (b.map (Query.subSelect t)))
    (Sql.orderItem t' (b.map (Query.subSelect t'))) := by
  have hkind := law.wrongKind b .order (by decide)
  cases b with
  | order i =>
    cases i with
    | base => exact .error hkind
    | column column ascending => exact .ok (law.of_eq (by simp))
    | verbatim sql => exact law.verbatim sql
    | random seed => exact .ok (law.of_eq rfl)
  | _ => exact .error hkind

theorem union : Concur err (BindAlike r) (Sql.union t (b.map (Query.subSelect t)))
    (Sql.union t' (b.map (Query.subSelect t'))) := by
  have hkind := law.wrongKind b .union (by decide)
  cases b with
  | union u =>
    cases u with
    | base => exact .error hkind
    | operand operation all query =>
      exact (h.nested query List.mem_cons_self).bind fun f f' hf => .pure (by
        simpa [BindAlike] using hf)
    | verbatim sql => exact law.verbatim sql
  | _ => exact .error hkind

omit h in
theorem clauseTerm {c : Clause Query} (h : c.item.Ported t t' err r paged) :
    Concur err (fun term term' => r term.sql.bindings term'.sql.bindings)
      (Sql.clauseTerm t.dialect (c.map (Body.map (Query.subSelect t))))
      (Sql.clauseTerm t'.dialect (c.map (Body.map (Query.subSelect t')))) := by
  obtain ⟨component, engine, b⟩ := c
  have hkind := law.wrongKind b .condition (by decide)
  cases b with
  | condition c => exact (law.condition h.scope h.nested).bind fun f f' hf => .pure hf
  | _ => exact .error hkind

end Body

section Lookup

omit law

variable {cs : List (Clause Query)} (h : PortedClauses t t' err r paged cs)

include h

theorem visible_eq (component : String) :
    visible cs component t'.engine = visible cs component t.engine := by
  refine List.filter_congr fun c hc => ?_
  have hscope : (c.engine == t.engine) = (c.engine == t'.engine) := (h c hc).1
  rw [Scoped.appliesTo, Scoped.appliesTo, hscope]

theorem effectiveItem_eq (component : String) :
    effectiveItem cs component t'.engine = effectiveItem cs component t.engine := by
  have hfind : (visible cs component t.engine).find? (·.engine == t'.engine) =
      (visible cs component t.engine).find? (·.engine == t.engine) :=
    List.find?_congr fun c hc => (h c (List.mem_of_mem_filter hc)).1.symm
  rw [effectiveItem, effectiveItem, effective, effective, visible_eq h, hfind]

theorem anyVisible_eq (component : String) :
    anyVisible cs component t'.engine = anyVisible cs component t.engine := by
  rw [Bool.eq_iff_iff, anyVisible_iff, anyVisible_iff, visible_eq h]

theorem ported_of_effectiveItem {component : String} {b : Body Query}
    (hb : effectiveItem cs component t.engine = some b) : b.Ported t t' err r paged := by
  obtain ⟨c, hc, rfl⟩ := exists_of_effectiveItem _ _ _ hb
  exact (h c (List.mem_of_mem_filter hc)).2

end Lookup

end Portable

end PolySql
