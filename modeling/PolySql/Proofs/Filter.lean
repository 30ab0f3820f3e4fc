import PolySql.Proofs.Acceptance
import PolySql.Proofs.Leaf
import PolySql.Proofs.Parts

/-!
The filter of a statement. Main statement: nothing that filters is lost. Every leaf that the target
sees is written in the filter, in order, unless it comes out blank; the filter is left out only
where all of them do.
-/

namespace PolySql

open Text

section Leaves

variable {Q : Type}

/-- The leaves of the filter that the engine sees. -/
def filterLeaves (engine : String) (cs : List (Clause Q)) : List (Leaf Q) :=
  (visible cs "where" engine).flatMap (·.item.leaves engine)

theorem filterLeaves_map {R : Type} (engine : String) (f : Q → R) (cs : List (Clause Q)) :
    filterLeaves engine (cs.map (Scoped.map (Body.map f))) =
      (filterLeaves engine cs).map (Leaf.map f) := by
  simp only [filterLeaves, visible_map, List.flatMap_map, List.map_flatMap]
  exact List.flatMap_congr fun c _ => c.item.leaves_map engine f

variable [Aliased Q] (t : Target) (cs : List (Clause Q))

/-- Path joins have no leaves, and the joins that stand for them do not filter. -/
theorem filterLeaves_expanded [Inflection] :
    filterLeaves t.engine (expanded t cs) = filterLeaves t.engine cs := by
  unfold filterLeaves expanded
  generalize (baseAlias t cs).getD "" = base
  induction cs with
  | nil => rfl
  | cons c rest ih =>
    rw [List.flatMap_cons, visible_append, List.flatMap_append, ih]
    cases hj : pathJoin? t c with
    | none =>
      rw [replacement_of_none hj, ← List.flatMap_append, ← visible_append]
      rfl
    | some j =>
      have hleaves : c.item.leaves t.engine = [] := by
        rw [(pathJoin?_eq_some_iff.mp hj).2]
        rfl
      rw [visible_replacement_of_path hj (by decide), visible, visible, List.filter_cons]
      split
      · rw [List.flatMap_cons, hleaves]
        rfl
      · rfl

end Leaves

section WherePart

variable {t : Target} {cs : List (Clause SubSelect)} {w : Fragment}

/-- The filter is its keyword and what displays its leaves, with no blanks at its ends. -/
theorem wherePart_displays (hfrom : visible cs "from" t.engine ≠ [])
    (h : Sql.wherePart t cs = .ok w) :
    w.strip = w ∧ ∃ sql, Displays t.dialect (filterLeaves t.engine cs) sql ∧
      w = if sql.text = "" then sql else "WHERE " ++ sql := by
  rw [Sql.wherePart, if_pos ((anyVisible_iff _ _ _).mpr hfrom)] at h
  obtain ⟨terms, hterms, rfl⟩ := exists_of_bind_pure h
  refine ⟨?_, _, displays_terms hterms (fun c _ term => displays_clauseTerm) "", rfl⟩
  have hstripped : ∀ term ∈ terms, term.sql.strip = term.sql := by
    intro term hterm
    obtain ⟨c, -, hc⟩ := exists_of_mapM_ok_of_mem hterms hterm
    exact strip_clauseTerm hc
  split
  · next hblank =>
    refine Fragment.ext ?_ rfl
    show strip (Sql.connect "" terms).text = _
    rw [hblank]
    rfl
  · next hne =>
    have hends := ends_connectFrom hstripped "" hne
    exact Fragment.ext (strip_of_ends
      (Starts.append ⟨'W', "HERE ".toList, by decide, by decide⟩ _) (hends.append _)) rfl

theorem wherePart_withColumns :
    Sql.wherePart t (Sql.withColumns t cs) = Sql.wherePart t cs := by
  have hfrom : anyVisible (Sql.withColumns t cs) "from" t.engine =
      anyVisible cs "from" t.engine := by
    rw [Bool.eq_iff_iff, anyVisible_iff, anyVisible_iff, Sql.visible_withColumns (by decide)]
  rw [Sql.wherePart, Sql.wherePart, hfrom, Sql.visible_withColumns (by decide)]

end WherePart

/-- The filter is left out exactly if all its leaves come out blank; else it shows the others. -/
theorem wherePart_complete {t : Target} {cs : List (Clause SubSelect)} {w : Fragment}
    (hd : t.dialect ∈ Dialect.builtin) (hfrom : visible cs "from" t.engine ≠ [])
    (h : Sql.wherePart t cs = .ok w) :
    ∃ gs, List.Forall₂ (Leaf.Renders t.dialect) (filterLeaves t.engine cs) gs ∧
      (w = ∅ ↔ ∀ leaf ∈ filterLeaves t.engine cs, leaf.IsBlank t.dialect) ∧
      (w ≠ ∅ → ∃ sql, w = "WHERE " ++ sql ∧ Fragment.InOrder (gs.filter (·.text ≠ "")) sql) ∧
      w.bindings = (gs.filter (·.text ≠ "")).flatMap (·.bindings) := by
  obtain ⟨-, sql, ⟨gs, hgs, hsql⟩, hshape⟩ := wherePart_displays hfrom h
  have hblank : sql.text = "" ↔ ∀ leaf ∈ filterLeaves t.engine cs, leaf.IsBlank t.dialect := by
    rw [hsql.blank]
    exact (forall_mem_iff_of_forall₂ hgs fun leaf g hg => (hg.blank_iff hd).symm).symm
  -- A blank leaf binds nothing, so that the others bind all that is bound.
  have hnone : ∀ g ∈ gs, g.text = "" → g.bindings = [] :=
    (forall_mem_iff_of_forall₂ (p := fun _ => True) hgs fun leaf g hg =>
      iff_of_true trivial (hg.bindings_of_blank hd)).mp fun _ _ => trivial
  have hbindings : sql.bindings = (gs.filter (·.text ≠ "")).flatMap (·.bindings) := by
    rw [Fragment.flatMap_bindings_filter hnone, hsql.bindings]
  by_cases hempty : sql.text = ""
  · have hall : gs.filter (·.text ≠ "") = [] := by
      rw [List.filter_eq_nil_iff]
      simpa using hsql.blank.mp hempty
    rw [if_pos hempty] at hshape
    have hw : w = ∅ := by
      rw [hshape]
      exact Fragment.ext hempty (by rw [hbindings, hall]; rfl)
    exact ⟨gs, hgs, iff_of_true hw (hblank.mp hempty), fun hne => absurd hw hne,
      by rw [hshape, hbindings]⟩
  · rw [if_neg hempty] at hshape
    have hw : w ≠ ∅ := by
      intro hw
      have htext := congrArg Fragment.text (hshape.symm.trans hw)
      simp [String.append_eq_empty_iff] at htext
    exact ⟨gs, hgs, iff_of_false hw (mt hblank.mpr hempty), fun _ => ⟨sql, hshape, hsql.pieces⟩,
      by rw [hshape, ← hbindings]; rfl⟩

namespace Query

variable (t : Target) (q : Query)

/-- The statement changes or removes rows of a table, or selects from one. -/
def HasFilter : Prop :=
  match q.block.method with
  | .select => ∃ c ∈ visible q.block.clauses "from" t.engine, pathJoin? t c = none
  | .change .insert => False
  | .change _ => True

/-- The clauses that the filter is taken from. -/
def filterClauses : List (Clause SubSelect) :=
  let cs := (q.block.map (Query.subSelect t)).clauses
  match q.block.method with
  | .select => expanded t cs
  | .change _ => cs

/-- The filter of the statement itself, and not of a query nested in it. -/
def filter : Except CompileError Fragment := Sql.wherePart t (q.filterClauses t)

/-- The leaves of the filter. -/
def leaves : List (Leaf Query) := filterLeaves t.engine q.block.clauses

end Query

namespace Sql

variable {t : Target} {cs : List (Clause SubSelect)} {f : Fragment}

/-- A select has its filter as a part. -/
theorem exists_wherePart_of_select {isDistinct : Bool} (h : select t isDistinct cs = .ok f) :
    ∃ w, wherePart t (expanded t cs) = .ok w ∧ w.strip.PieceOf f := by
  obtain ⟨window, parts, rfl, hparts⟩ := selectExpanded_parts (selectExpanded_of_select h)
  have hpart : wherePart t (withColumns t (expanded t cs)) ∈
      clauseParts t window isDistinct (withColumns t (expanded t cs)) := by simp [clauseParts]
  obtain ⟨w, hw, hrun⟩ := hparts _ hpart
  rw [wherePart_withColumns] at hrun
  exact ⟨w, hrun, .sentence hw⟩

theorem whereSuffix_spec (h : whereSuffix t cs = .ok f) :
    ∃ w, wherePart t cs = .ok w ∧ f = if w.text = "" then w else " " ++ w := by
  obtain ⟨w, hw, rfl⟩ := exists_of_bind_pure h
  exact ⟨w, hw, rfl⟩

theorem pieceOf_suffix (w : Fragment) : w.PieceOf (if w.text = "" then w else " " ++ w) := by
  split
  · exact .refl w
  · exact (Fragment.PieceOf.refl w).append_left _

theorem changedTable_spec {change : Change} (h : changedTable t change cs = .ok f) :
    ∃ table, effectiveItem cs "from" t.engine = some (.table (.named table)) ∧
      f = t.dialect.identifier table := by
  unfold changedTable at h
  split at h
  · cases h
  · next table hfrom => exact ⟨table, hfrom, (Except.ok.inj h).symm⟩
  · cases h

theorem length_eq_of_checkRow {change : Change} {columns : List String} {values : List Bound}
    {u : Unit} (h : checkRow change columns values = .ok u) : columns.length = values.length :=
  (succeeds_checkRow change).mp ⟨u, h⟩

theorem update_spec (h : update t cs = .ok f) :
    ∃ table columns values filter,
      effectiveItem cs "from" t.engine = some (.table (.named table)) ∧
      effectiveItem cs "update" t.engine = some (.insert (.row columns values)) ∧
      columns.length = values.length ∧ wherePart t cs = .ok filter ∧
      f = "UPDATE " ++ t.dialect.identifier table ++ " SET " ++ assignments t columns values ++
        if filter.text = "" then filter else " " ++ filter := by
  obtain ⟨target, htarget, h⟩ := exists_of_bind_ok h
  obtain ⟨table, hfrom, rfl⟩ := changedTable_spec htarget
  split at h
  · next columns values hrow =>
    obtain ⟨u, hcheck, h⟩ := exists_of_bind_ok h
    obtain ⟨suffix, hsuffix, h⟩ := exists_of_bind_ok h
    obtain ⟨filter, hfilter, rfl⟩ := whereSuffix_spec hsuffix
    exact ⟨table, columns, values, filter, hfrom, hrow, length_eq_of_checkRow hcheck, hfilter,
      (Except.ok.inj h).symm⟩
  · cases h

theorem exists_wherePart_of_update (h : update t cs = .ok f) :
    visible cs "from" t.engine ≠ [] ∧ ∃ w, wherePart t cs = .ok w ∧ w.PieceOf f := by
  obtain ⟨table, columns, values, w, hfrom, -, -, hw, rfl⟩ := update_spec h
  exact ⟨visible_ne_nil_of_effectiveItem hfrom, w, hw, (pieceOf_suffix w).append_left _⟩

theorem exists_wherePart_of_delete (h : delete t cs = .ok f) :
    visible cs "from" t.engine ≠ [] ∧ ∃ w, wherePart t cs = .ok w ∧ w.PieceOf f := by
  obtain ⟨target, htarget, h⟩ := exists_of_bind_ok h
  obtain ⟨table, hfrom, -⟩ := changedTable_spec htarget
  obtain ⟨suffix, hsuffix, h⟩ := exists_of_bind_ok h
  obtain ⟨w, hw, rfl⟩ := whereSuffix_spec hsuffix
  obtain rfl := Except.ok.inj h
  exact ⟨visible_ne_nil_of_effectiveItem hfrom, w, hw, (pieceOf_suffix w).append_left _⟩

end Sql

namespace Query

variable {t : Target} {q : Query} {f : Fragment}

/-- A table that a select is from is no path join, and so it is left as it is. -/
theorem visible_expanded_ne_nil [Inflection] {Q : Type} [Aliased Q] {cs : List (Clause Q)}
    {c : Clause Q} (hc : c ∈ visible cs "from" t.engine) (hj : pathJoin? t c = none) :
    visible (expanded t cs) "from" t.engine ≠ [] := by
  obtain ⟨hmem, hseen⟩ := List.mem_filter.mp hc
  have hother : c ∈ cs.filter fun c => (pathJoin? t c).isNone :=
    List.mem_filter.mpr ⟨hmem, by rw [hj]; rfl⟩
  exact List.ne_nil_of_mem
    (List.mem_filter.mpr ⟨(others_sublist_expanded cs).subset hother, hseen⟩)

/-- A statement with a filter has a table to filter, and the filter as a piece. -/
theorem filter_pieceOf (hq : q.HasFilter t) (h : q.compile t = .ok f) :
    visible (q.filterClauses t) "from" t.engine ≠ [] ∧
      ∃ w, q.filter t = .ok w ∧ (w.strip = w → w.PieceOf f) := by
  obtain ⟨cs, method, isDistinct, aliasName⟩ := q
  obtain ⟨ctes, sql, -, hsql, rfl⟩ := Sql.statement_parts h
  cases method with
  | select =>
    constructor
    · obtain ⟨c, hc, hj⟩ := hq
      refine visible_expanded_ne_nil (c := c.map (Body.map (Query.subSelect t))) ?_ ?_
      · exact (visible_map cs "from" t.engine _).symm ▸ List.mem_map_of_mem hc
      · rw [pathJoin?_map, hj]
    · obtain ⟨w, hw, hpiece⟩ := Sql.exists_wherePart_of_select hsql
      refine ⟨w, hw, fun hstrip => ?_⟩
      rw [hstrip] at hpiece
      exact hpiece.append_left ctes
  | change change =>
    cases change with
    | insert => exact hq.elim
    | update =>
      obtain ⟨hfrom, w, hw, hpiece⟩ := Sql.exists_wherePart_of_update hsql
      exact ⟨hfrom, w, hw, fun _ => hpiece.append_left ctes⟩
    | delete =>
      obtain ⟨hfrom, w, hw, hpiece⟩ := Sql.exists_wherePart_of_delete hsql
      exact ⟨hfrom, w, hw, fun _ => hpiece.append_left ctes⟩

theorem filterLeaves_filterClauses :
    filterLeaves t.engine (q.filterClauses t) =
      (q.leaves t).map (Leaf.map (Query.subSelect t)) := by
  rw [leaves, ← filterLeaves_map]
  unfold filterClauses
  cases q.block.method with
  | select => exact filterLeaves_expanded t _
  | change change => rfl

end Query

/-- Nothing that filters is lost. The filter of a statement, with the values that it binds, is a
piece of it. It is left out exactly if all its leaves are verbatim SQL that comes out blank; else it
shows every other leaf, in order and without overlap. It binds what those leaves bind. -/
theorem filter_complete {t : Target} {q : Query} {f : Fragment} (hd : t.dialect ∈ Dialect.builtin)
    (hq : q.HasFilter t) (h : q.compile t = .ok f) :
    ∃ w gs, q.filter t = .ok w ∧ w.PieceOf f ∧
      List.Forall₂ (fun leaf g => (leaf.map (Query.subSelect t)).Renders t.dialect g) (q.leaves t)
        gs ∧
      (w = ∅ ↔ ∀ leaf ∈ q.leaves t, leaf.IsBlank t.dialect) ∧
      (w ≠ ∅ → ∃ sql, w = "WHERE " ++ sql ∧ Fragment.InOrder (gs.filter (·.text ≠ "")) sql) ∧
      w.bindings = (gs.filter (·.text ≠ "")).flatMap (·.bindings) := by
  obtain ⟨hfrom, w, hw, hpiece⟩ := Query.filter_pieceOf hq h
  obtain ⟨hstrip, -⟩ := wherePart_displays hfrom hw
  obtain ⟨gs, hgs, hblank, hshown, hbindings⟩ := wherePart_complete hd hfrom hw
  rw [Query.filterLeaves_filterClauses, List.forall₂_map_left_iff] at hgs
  rw [Query.filterLeaves_filterClauses, List.forall_mem_map] at hblank
  simp only [Leaf.isBlank_map] at hblank
  exact ⟨w, gs, hw, hpiece hstrip, hgs, hblank, hshown, hbindings⟩

/-- Removes sessions that are neither fresh nor kept; a condition in front comes out blank. -/
def staleSessions : Query :=
  .ofBlock ⟨[⟨"from", wildcard, .table (.named "sessions")⟩,
    ⟨"where", wildcard, .condition (.test ⟨false, false⟩ (.verbatim ⟨" ", []⟩))⟩,
    ⟨"where", wildcard, .condition (.group ⟨false, true⟩
      [⟨"where", "postgres", .test ⟨false, false⟩ (.isNull "owner")⟩,
        ⟨"where", wildcard, .test ⟨false, false⟩ (.compare "expires" ">" (.value (.int 9)))⟩,
        ⟨"where", "sqlite",
          .test ⟨true, false⟩ (.verbatim ⟨" [kept] = ?", [.value (.str "y")]⟩)⟩])⟩],
    .change .delete, false, none⟩

set_option maxRecDepth 20000 in
theorem staleSessions_filtered :
    ∃ w gs, staleSessions.filter ⟨.sqlite, {}⟩ = .ok w ∧
      w.PieceOf ⟨"DELETE FROM \"sessions\" WHERE NOT (\"expires\" > ? OR \"kept\" = ?)",
        [.int 9, .str "y"]⟩ ∧
      List.Forall₂ (fun (leaf : Leaf Query) g =>
          (leaf.map (Query.subSelect ⟨.sqlite, {}⟩)).Renders .sqlite g)
        [⟨false, .verbatim ⟨" ", []⟩⟩, ⟨false, .compare "expires" ">" (.value (.int 9))⟩,
          ⟨false, .verbatim ⟨" [kept] = ?", [.value (.str "y")]⟩⟩] gs ∧
      ∃ sql, w = "WHERE " ++ sql ∧ Fragment.InOrder (gs.filter (·.text ≠ "")) sql := by
  have hcompile : staleSessions.compile ⟨.sqlite, {}⟩ =
      .ok ⟨"DELETE FROM \"sessions\" WHERE NOT (\"expires\" > ? OR \"kept\" = ?)",
        [.int 9, .str "y"]⟩ := by rfl
  obtain ⟨w, gs, hw, hpiece, hgs, hblank, hshown, -⟩ :=
    filter_complete (t := ⟨.sqlite, {}⟩) (q := staleSessions) (by decide) trivial hcompile
  refine ⟨w, gs, hw, hpiece, hgs, hshown fun hempty => ?_⟩
  obtain ⟨sql, f, hsql, -, -⟩ := hblank.mp hempty
    ⟨false, .compare "expires" ">" (.value (.int 9))⟩ (.tail _ (.head _))
  cases hsql

end PolySql
