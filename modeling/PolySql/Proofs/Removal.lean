import PolySql.Proofs.Reading

/-!
Clauses without those of one component. Main statements: no other component knows that they are
gone, before path joins are expanded or after, and their own is left with nothing to see.
-/

namespace PolySql

section Removal

variable {Q R : Type} {f : Q → R} {t : Target} {c : Clause Q} {removed component : String}

/-- A clause of a component. A path join under it is none, as it becomes joins. -/
def isOf (component : String) (c : Clause Q) : Bool :=
  match c.item with
  | .join (.path _) => false
  | _ => c.component == component

def Block.without (component : String) (b : Block Q) : Block Q :=
  { b with clauses := b.clauses.filter (!isOf component ·) }

theorem isOf_map (component : String) (c : Clause Q) :
    isOf component (c.map (Body.map f)) = isOf component c := by
  obtain ⟨own, engine, b⟩ := c
  cases b with
  | join j => cases j <;> rfl
  | _ => rfl

theorem Block.without_map (component : String) (b : Block Q) :
    (b.map f).without component = (b.without component).map f := by
  simp only [Block.without, Block.map, List.filter_map, Function.comp_def, isOf_map]

theorem component_of_isOf (h : isOf removed c) : c.component = removed := by
  unfold isOf at h
  split at h
  · cases h
  · exact beq_iff_eq.mp h

theorem pathJoin?_of_isOf (h : isOf removed c) : pathJoin? t c = none := by
  unfold pathJoin?
  split
  · next j hj => simp [isOf, hj] at h
  · rfl

/-- Other components do not know of the clauses. -/
theorem visible_filter_isOf (hcomponent : component ≠ removed) (cs : List (Clause Q))
    (engine : String) :
    visible (cs.filter (!isOf removed ·)) component engine = visible cs component engine := by
  rw [visible, visible, List.filter_filter]
  refine List.filter_congr fun c _ => ?_
  cases hc : isOf removed c with
  | false => simp
  | true =>
    have hother : c.component ≠ component := by
      rw [component_of_isOf hc]
      exact hcomponent.symm
    simp [hother]

theorem pathJoins_filter_isOf (cs : List (Clause Q)) :
    pathJoins t (cs.filter (!isOf removed ·)) = pathJoins t cs := by
  rw [pathJoins, List.filterMap_filter]
  refine List.filterMap_congr fun c _ => ?_
  cases hc : isOf removed c with
  | false => rfl
  | true => exact (pathJoin?_of_isOf hc).symm

variable [Aliased Q] (cs : List (Clause Q))

theorem baseAlias_filter_isOf (hfrom : "from" ≠ removed) :
    baseAlias t (cs.filter (!isOf removed ·)) = baseAlias t cs := by
  rw [baseAlias, effectiveItem_congr (visible_filter_isOf hfrom cs t.engine), ← baseAlias]

theorem stranded?_filter_isOf (hfrom : "from" ≠ removed) :
    stranded? t (cs.filter (!isOf removed ·)) = stranded? t cs := by
  rw [stranded?, baseAlias_filter_isOf cs hfrom, pathJoins_filter_isOf, ← stranded?]

theorem visible_expanded_filter_isOf [Inflection] (hfrom : "from" ≠ removed)
    (hcomponent : component ≠ removed) :
    visible (expanded t (cs.filter (!isOf removed ·))) component t.engine =
      visible (expanded t cs) component t.engine := by
  rw [expanded, expanded, baseAlias_filter_isOf cs hfrom]
  generalize (baseAlias t cs).getD "" = base
  induction cs with
  | nil => rfl
  | cons c cs ih =>
    cases hc : isOf removed c with
    | false =>
      rw [List.filter_cons_of_pos (by rw [hc]; rfl), List.flatMap_cons, List.flatMap_cons,
        visible_append, visible_append, ih]
    | true =>
      have hother : c.component ≠ component := by
        rw [component_of_isOf hc]
        exact hcomponent.symm
      rw [List.filter_cons_of_neg (by rw [hc]; decide), List.flatMap_cons, visible_append,
        replacement_of_none (pathJoin?_of_isOf hc), visible_singleton_of_ne hother,
        List.nil_append, ih]

/-- What is left of the component are path joins, and they go among the joins. -/
theorem visible_expanded_removed [Inflection] (hjoin : removed ≠ "join") :
    visible (expanded t (cs.filter (!isOf removed ·))) removed t.engine = [] := by
  rw [visible_expanded_of_ne hjoin, List.filter_eq_nil_iff]
  intro c hc
  obtain ⟨hmem, hseen⟩ := List.mem_filter.mp hc
  have hkept : isOf removed c = false := by simpa using (List.mem_filter.mp hmem).2
  rw [Bool.and_eq_true, beq_iff_eq] at hseen
  unfold isOf at hkept
  split at hkept
  · next j hj => simp [pathJoin?, hj, hseen.2]
  · simp [hseen.1] at hkept

end Removal

end PolySql
