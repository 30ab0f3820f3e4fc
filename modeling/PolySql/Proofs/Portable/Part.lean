import PolySql.Proofs.Portable.Clause

/-!
The parts of a statement for targets that bind alike. Main statement: each part binds alike; the two
of which one shows the columns bind the rows to take in front, where a target takes them there.
-/

namespace PolySql.Portable

/-- Related values, behind the number of rows to take for a target that takes them in front. -/
def Topped (t t' : Target) (r : List Json → List Json → Prop) (window : Option Window)
    (vs vs' : List Json) : Prop :=
  ∃ ws ws', r ws ws' ∧ vs = (Sql.topPart t window).bindings ++ ws ∧
    vs' = (Sql.topPart t' window).bindings ++ ws'

variable {t t' : Target} {err : CompileError → CompileError → Prop}
  {r : List Json → List Json → Prop} {paged : Window → Prop} (law : Portable t t' err r paged)
  {cs : List (Clause Query)} (h : PortedClauses t t' err r paged cs)

include law h

/-- Clauses of a component, each put through what binds alike. -/
theorem each {γ : Type} {b : γ → List Json} {f g : Clause SubSelect → Except CompileError γ}
    (component : String)
    (hfg : ∀ c ∈ visible cs component t.engine, c.item.Ported t t' err r paged →
      Concur err (fun x y => r (b x) (b y)) (f (c.map (Body.map (Query.subSelect t))))
        (g (c.map (Body.map (Query.subSelect t'))))) :
    Concur err (fun xs ys => r (xs.flatMap b) (ys.flatMap b))
      ((visible (subSelects t cs) component t.engine).mapM f)
      ((visible (subSelects t' cs) component t'.engine).mapM g) := by
  rw [visible_map, visible_map, visible_eq h]
  refine law.mapM ?_
  rw [List.forall₂_map_left_iff, List.forall₂_map_right_iff, List.forall₂_same]
  intro c hc
  exact hfg c hc (h c (List.mem_of_mem_filter hc)).2

theorem columns (component : String) :
    Concur err (BindAlike r)
      (Sql.columns t.dialect (visible (subSelects t cs) component t.engine))
      (Sql.columns t'.dialect (visible (subSelects t' cs) component t'.engine)) :=
  (law.each h component fun _ _ hc => law.column hc).map fun _ _ => separated _

theorem terms (component : String) :
    Concur err (fun terms terms' =>
        r (terms.flatMap (·.sql.bindings)) (terms'.flatMap (·.sql.bindings)))
      ((visible (subSelects t cs) component t.engine).mapM (Sql.clauseTerm t.dialect))
      ((visible (subSelects t' cs) component t'.engine).mapM (Sql.clauseTerm t'.dialect)) :=
  law.each h component fun _ _ hc => law.clauseTerm hc

/-- Both targets find the same window, and one that is asked for. -/
theorem windowOf :
    Concur err (fun w w' => w = w' ∧ ∀ x ∈ w, paged x) (Sql.windowOf t (subSelects t cs))
      (Sql.windowOf t' (subSelects t' cs)) := by
  unfold Sql.windowOf
  rw [effectiveItem_map, effectiveItem_map, effectiveItem_eq h]
  cases hitem : effectiveItem cs "limit" t.engine with
  | none => exact .ok ⟨rfl, by simp⟩
  | some b =>
    have hported := ported_of_effectiveItem h hitem
    have hkind := law.wrongKind b .limit (by decide)
    cases b with
    | window w => exact .ok ⟨rfl, hported.window⟩
    | _ => exact .error hkind

theorem lockOf :
    Concur err (fun _ _ => True) (Sql.lockOf t (subSelects t cs))
      (Sql.lockOf t' (subSelects t' cs)) := by
  unfold Sql.lockOf
  rw [effectiveItem_map, effectiveItem_map, effectiveItem_eq h]
  cases effectiveItem cs "lock" t.engine with
  | none => exact .ok trivial
  | some b =>
    have hkind := law.wrongKind b .lock (by decide)
    cases b with
    | lock mode => exact .ok trivial
    | _ => exact .error hkind

theorem fromPart :
    Concur err (BindAlike r) (Sql.fromPart t (subSelects t cs))
      (Sql.fromPart t' (subSelects t' cs)) := by
  unfold Sql.fromPart
  rw [effectiveItem_map, effectiveItem_map, effectiveItem_eq h]
  cases hitem : effectiveItem cs "from" t.engine with
  | none => exact .ok (law.of_eq rfl)
  | some b =>
    refine (law.tableOf (ported_of_effectiveItem h hitem)).bind fun f f' hf => .pure ?_
    simpa [BindAlike] using hf

theorem joinPart (hpaths : ∀ c ∈ visible cs "join" t.engine, ∀ j, c.item ≠ .join (.path j)) :
    Concur err (BindAlike r) (Sql.joinPart t (subSelects t cs))
      (Sql.joinPart t' (subSelects t' cs)) :=
  (law.each h "join" fun c hc hported => law.join hported (hpaths c hc)).map
    fun _ _ => separated _

theorem wherePart :
    Concur err (BindAlike r) (Sql.wherePart t (subSelects t cs))
      (Sql.wherePart t' (subSelects t' cs)) := by
  unfold Sql.wherePart
  rw [anyVisible_map, anyVisible_map, anyVisible_eq h]
  split
  · refine (law.terms h "where").bind fun terms terms' hterms => .pure ?_
    simpa [BindAlike, apply_ite Fragment.bindings, bindings_connect] using hterms
  · exact .ok (law.of_eq rfl)

theorem groupPart :
    Concur err (BindAlike r) (Sql.groupPart t (subSelects t cs))
      (Sql.groupPart t' (subSelects t' cs)) := by
  rw [Sql.groupPart_eq_ite, Sql.groupPart_eq_ite, anyVisible_map, anyVisible_map, anyVisible_eq h]
  split
  · refine (law.columns h "group").bind fun f f' hf => .pure ?_
    simpa [BindAlike] using hf
  · exact .ok (law.of_eq rfl)

theorem havingPart :
    Concur err (BindAlike r) (Sql.havingPart t (subSelects t cs))
      (Sql.havingPart t' (subSelects t' cs)) := by
  refine (law.terms h "having").map fun terms terms' hterms => ?_
  rwa [BindAlike, bindings_connect, bindings_connect]

theorem orderPart :
    Concur err (BindAlike r) (Sql.orderPart t (subSelects t cs))
      (Sql.orderPart t' (subSelects t' cs)) := by
  rw [Sql.orderPart_eq_ite, Sql.orderPart_eq_ite, anyVisible_map, anyVisible_map, anyVisible_eq h]
  split
  · refine (law.each h "order" fun _ _ hc => law.orderItem hc).bind fun fs fs' hfs => .pure ?_
    have hlist := separated (r := r) ", " hfs
    simpa [BindAlike] using hlist
  · exact .ok (law.of_eq rfl)

theorem unionPart :
    Concur err (BindAlike r) (Sql.unionPart t (subSelects t cs))
      (Sql.unionPart t' (subSelects t' cs)) :=
  (law.each h "union" fun _ _ hc => law.union hc).map fun _ _ => separated _

theorem withList :
    Concur err (BindAlike r) (Sql.withList t.dialect (subSelects t cs))
      (Sql.withList t'.dialect (subSelects t' cs)) := by
  rw [Sql.withList_eq_ite, Sql.withList_eq_ite, anyVisible_map, anyVisible_map, anyVisible_eq h]
  split
  · refine (law.each h "cte" fun _ _ hc => law.cte hc).bind fun fs fs' hfs => .pure ?_
    have hlist := separated (r := r) ", " hfs
    simpa [BindAlike] using hlist
  · exact .ok (law.of_eq rfl)

variable (window : Option Window) (isDistinct : Bool)

theorem aggregatePart (hseen : anyVisible cs "aggregate" t.engine) :
    Concur err (fun f f' => Topped t t' r window f.bindings f'.bindings)
      (Sql.aggregatePart t window isDistinct (subSelects t cs))
      (Sql.aggregatePart t' window isDistinct (subSelects t' cs)) := by
  unfold Sql.aggregatePart
  rw [effectiveItem_map, effectiveItem_map, effectiveItem_eq h]
  cases hitem : effectiveItem cs "aggregate" t.engine with
  | none =>
    exact absurd ((effectiveItem_eq_none_iff _ _ _).mp hitem) ((anyVisible_iff _ _ _).mp hseen)
  | some b =>
    have hkind := law.wrongKind b .aggregate (by decide)
    cases b with
    | aggregate a => exact .ok ⟨[], [], law.same [], by simp, by simp⟩
    | _ => exact .error hkind

theorem columnsPart (hunseen : anyVisible cs "aggregate" t.engine = false)
    (hselect : anyVisible cs "select" t.engine) :
    Concur err (fun f f' => Topped t t' r window f.bindings f'.bindings)
      (Sql.columnsPart t window isDistinct (subSelects t cs))
      (Sql.columnsPart t' window isDistinct (subSelects t' cs)) := by
  unfold Sql.columnsPart
  rw [anyVisible_map, anyVisible_map, anyVisible_map, anyVisible_map, anyVisible_eq h,
    anyVisible_eq h, hunseen, hselect]
  refine (law.columns h "select").bind fun f f' hf => .pure ⟨f.bindings, f'.bindings, hf, ?_, ?_⟩
  · simp [apply_ite Fragment.bindings]
  · simp [apply_ite Fragment.bindings]

/-- Of the aggregate and the columns one is written. -/
theorem headParts (hselect : anyVisible cs "select" t.engine) :
    Concur err
      (fun fs fs' => Topped t t' r window (fs.flatMap (·.bindings)) (fs'.flatMap (·.bindings)))
      ([Sql.aggregatePart t window isDistinct (subSelects t cs),
        Sql.columnsPart t window isDistinct (subSelects t cs)].mapM id)
      ([Sql.aggregatePart t' window isDistinct (subSelects t' cs),
        Sql.columnsPart t' window isDistinct (subSelects t' cs)].mapM id) := by
  have hpair : ∀ x y : Except CompileError Fragment,
      [x, y].mapM id = x >>= fun f => y >>= fun g => pure [f, g] := by
    intro x y
    simp only [List.mapM_cons, List.mapM_nil, id_eq, pure_bind, bind_assoc]
  rw [hpair, hpair]
  by_cases hseen : anyVisible cs "aggregate" t.engine
  · -- The aggregate is written, and no columns are.
    have hcolumns : ∀ u : Target, anyVisible cs "aggregate" u.engine →
        Sql.columnsPart u window isDistinct (subSelects u cs) = .ok ∅ := by
      intro u hu
      rw [Sql.columnsPart, anyVisible_map, hu]
      rfl
    rw [hcolumns t hseen, hcolumns t' (anyVisible_eq h "aggregate" ▸ hseen)]
    exact (law.aggregatePart h window isDistinct hseen).bind fun f f' hf =>
      .pure (by simpa using hf)
  · have haggregate : ∀ u : Target, effectiveItem cs "aggregate" u.engine = none →
        Sql.aggregatePart u window isDistinct (subSelects u cs) = .ok ∅ := by
      intro u hu
      rw [Sql.aggregatePart, effectiveItem_map, hu]
      rfl
    have hnone : effectiveItem cs "aggregate" t.engine = none := by
      rwa [anyVisible_iff, not_not, ← effectiveItem_eq_none_iff] at hseen
    rw [haggregate t hnone, haggregate t' (effectiveItem_eq h "aggregate" ▸ hnone)]
    have hunseen : anyVisible cs "aggregate" t.engine = false := by simpa using hseen
    exact (law.columnsPart h window isDistinct hunseen hselect).bind fun f f' hf =>
      .pure (by simpa using hf)

end PolySql.Portable
