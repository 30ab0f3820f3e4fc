import PolySql.Proofs.Alike.Self
import PolySql.Proofs.Alike.Statement
import PolySql.Proofs.RestrictedSql

/-!
Clauses of other engines are never seen. Main statement: a query compiles as its restriction to the
engine of the target does, and binds nothing but what is left in that restriction.
-/

namespace PolySql

namespace Query

variable (t : Target)

theorem restrict_ofBlock (engine : String) (b : Block Query) :
    (Query.ofBlock b).restrict engine =
      .ofBlock ((b.map (Query.restrict engine)).restrict engine) :=
  fold_ofBlock _ b

/-- The blocks that two compilations see differ in clauses of other engines alone. -/
theorem block_restrict {b : Block Query}
    (h : ∀ q ∈ b.nested, (q.restrict t.engine).subSelect t = q.subSelect t) :
    ((Query.ofBlock b).restrict t.engine).block.map (Query.subSelect t) =
      (b.map (Query.subSelect t)).restrict t.engine := by
  rw [restrict_ofBlock]
  show ((b.map (Query.restrict t.engine)).restrict t.engine).map (Query.subSelect t) = _
  rw [Block.map_restrict, Block.map_map h]

theorem subSelect_restrict (q : Query) :
    (q.restrict t.engine).subSelect t = q.subSelect t := by
  induction q using Query.induction with
  | step b ih =>
    rw [subSelect_eq, block_restrict t ih, Sql.subSelect_restrict, subSelect_eq t (.ofBlock b)]
    rfl

theorem compile_restrict (q : Query) : (q.restrict t.engine).compile t = q.compile t := by
  cases q with
  | ofBlock b =>
    unfold compile
    rw [block_restrict t fun q _ => subSelect_restrict t q, Sql.statement_restrict]
    rfl

end Query

/-- Equal fragments whose bindings all belong to a set. -/
structure Fragment.Binds (V : Json → Prop) (f f' : Fragment) : Prop where
  eq : f = f'
  bindings : ∀ v ∈ f.bindings, V v

namespace Fragment.Binds

variable {V : Json → Prop} {f f' g g' : Fragment}

theorem text (s : String) : Binds V s s := ⟨rfl, fun v hv => by cases hv⟩

theorem append (hf : Binds V f f') (hg : Binds V g g') : Binds V (f ++ g) (f' ++ g') := by
  refine ⟨?_, ?_⟩
  · rw [hf.eq, hg.eq]
  · intro v hv
    rw [bindings_append, List.mem_append] at hv
    exact hv.elim (hf.bindings v) (hg.bindings v)

end Fragment.Binds

theorem lawful_binds (V : Json → Prop) (t : Target) :
    Lawful ⟨Eq, fun _ _ => False⟩ (.ofValues V) t fun _ => Fragment.Binds V where
  alphabet := .all t.dialect
  sourceKeySuffix _ _ := trivial
  targetKey _ _ := trivial
  aggregateAlias _ _ := trivial
  text _ := .text _
  append hf hg := hf.append hg
  strip h := ⟨congrArg Fragment.strip h.eq, h.bindings⟩
  blank h := by rw [h.eq]
  mono h _ := h
  value h hv := ⟨congrArg _ h, fun v hmem => by
    rw [List.mem_singleton.mp hmem]
    exact hv⟩
  fill h _ := h.elim

/-- A query binds only values that it contains. -/
theorem Query.bindings_within {V : Json → Prop} {t : Target} {q : Query} {f : Fragment}
    (hq : q.Within (.ofValues V)) (h : q.compile t = .ok f) : ∀ v ∈ f.bindings, V v := by
  have hself := (q.alike_self fun _ => rfl).compile (lawful_binds V t) hq
  rw [h] at hself
  cases hself with
  | ok hbinds => exact hbinds.bindings

/-- What other engines see decides nothing: not the text or the error of a query, and not what it
binds, at any depth. -/
theorem compile_other_engines (t : Target) (q : Query) :
    (q.restrict t.engine).compile t = q.compile t ∧
      (∀ q' : Query, q.restrict t.engine = q'.restrict t.engine → q.compile t = q'.compile t) ∧
      ∀ (V : Json → Prop) (f : Fragment), (q.restrict t.engine).Within (.ofValues V) →
        q.compile t = .ok f → ∀ v ∈ f.bindings, V v := by
  have hsame := Query.compile_restrict t
  refine ⟨hsame q, ?_, ?_⟩
  · intro q' hq
    rw [← hsame q, ← hsame q', hq]
  · intro V f hwithin hcompile
    -- The bindings are those of the restriction, which holds nothing of other engines.
    rw [← hsame q] at hcompile
    exact Query.bindings_within hwithin hcompile

/-- The order lines of one customer, and for another engine those of a second one. -/
def ordersOf (own other : Json) : Query :=
  .ofBlock ⟨[⟨"from", wildcard, .table (.named "orders")⟩,
    ⟨"where", "postgres", .condition (.test ⟨false, false⟩ (.compare "id" "=" (.value other)))⟩,
    ⟨"where", "sqlite", .condition (.test ⟨false, false⟩ (.compare "id" "=" (.value own)))⟩],
    .select, false, none⟩

set_option maxRecDepth 20000 in
theorem ordersOf_other_engines :
    (ordersOf (.int 1) (.int 2)).compile ⟨.sqlite, {}⟩ =
        (ordersOf (.int 1) (.int 3)).compile ⟨.sqlite, {}⟩ ∧
      (ordersOf (.int 1) (.int 2)).compile ⟨.sqlite, {}⟩ =
        .ok ⟨"SELECT * FROM \"orders\" WHERE \"id\" = ?", [.int 1]⟩ ∧
      ∀ v ∈ [Json.int 1], v = .int 1 := by
  have hcompile : (ordersOf (.int 1) (.int 2)).compile ⟨.sqlite, {}⟩ =
      .ok ⟨"SELECT * FROM \"orders\" WHERE \"id\" = ?", [.int 1]⟩ := by rfl
  have hwithin : ((ordersOf (.int 1) (.int 2)).restrict "sqlite").Within
      (.ofValues fun v => v = .int 1) := by
    have hfrom : (Body.table (.named "orders") : Body Query).Within
        (.ofValues fun v => v = .int 1) := fun _ _ => trivial
    have hwhere : (Body.condition (.test ⟨false, false⟩ (.compare "id" "=" (.value (.int 1)))) :
        Body Query).Within (.ofValues fun v => v = .int 1) :=
      ⟨fun _ _ => trivial, fun _ _ => trivial, rfl⟩
    refine .ofBlock (List.forall_mem_cons.mpr ⟨hfrom, List.forall_mem_singleton.mpr hwhere⟩) ?_
    intro q hq
    cases hq
  obtain ⟨-, hsame, hbinds⟩ := compile_other_engines ⟨.sqlite, {}⟩ (ordersOf (.int 1) (.int 2))
  exact ⟨hsame _ rfl, hcompile, hbinds _ _ hwithin hcompile⟩

end PolySql
