import PolySql.Proofs.Columns
import PolySql.Proofs.Expansion
import PolySql.Proofs.Pieces
import PolySql.Proofs.Success
import PolySql.Sql.Statement

/-!
The parts of a statement. Main statements: a statement is its WITH list and what follows it, and a
select is the sentence of its parts, neither blank nor with blanks at its ends.
-/

namespace PolySql

open Text

theorem solid_separated {fs : List Fragment} (hne : fs ≠ []) (hfs : ∀ f ∈ fs, Solid f.text) :
    Solid (Fragment.separated " " fs).text := by
  have hends : Starts (Fragment.separated " " fs).text ∧ Ends (Fragment.separated " " fs).text := by
    fun_induction Fragment.separated " " fs with
    | case1 => exact absurd rfl hne
    | case2 f =>
      have hf := hfs f List.mem_cons_self
      exact ⟨hf.starts, hf.ends⟩
    | case3 f g rest ih =>
      obtain ⟨-, hlast⟩ := ih (List.cons_ne_nil _ _) fun e he => hfs e (List.mem_cons_of_mem _ he)
      exact ⟨((hfs f List.mem_cons_self).starts.append _).append _, hlast.append _⟩
  exact ⟨hends.1.inked.ne_empty, strip_of_ends hends.1 hends.2⟩

/-- A sentence with a part that is not blank. -/
theorem solid_sentence {fs : List Fragment} {f : Fragment} (hf : f ∈ fs) (hne : f.strip.text ≠ "") :
    Solid (Fragment.sentence fs).text := by
  refine solid_separated (List.ne_nil_of_mem (a := f.strip) ?_) fun g hg => ?_
  · exact List.mem_filter.mpr ⟨List.mem_map_of_mem hf, by simpa using hne⟩
  · obtain ⟨hg, hsolid⟩ := List.mem_filter.mp hg
    obtain ⟨e, -, rfl⟩ := List.mem_map.mp hg
    exact ⟨by simpa using hsolid, strip_strip e.text⟩

namespace Sql

variable {t : Target}

/-- The parts of a select that are written from clauses: those in front of the paging, and the one
behind it. -/
def clauseParts (t : Target) (window : Option Window) (isDistinct : Bool)
    (cs : List (Clause SubSelect)) : List (Except CompileError Fragment) :=
  [aggregatePart t window isDistinct cs, columnsPart t window isDistinct cs, fromPart t cs,
    joinPart t cs, wherePart t cs, groupPart t cs, havingPart t cs, orderPart t cs] ++
  [unionPart t cs]

/-- A select with a window, whatever its own clauses say about it. -/
def selectWith (t : Target) (window : Option Window) (isDistinct : Bool)
    (cs : List (Clause SubSelect)) : Except CompileError Fragment := do
  let mode ← lockOf t cs
  let parts ← [
    aggregatePart t window isDistinct cs,
    columnsPart t window isDistinct cs,
    fromPart t cs,
    joinPart t cs,
    wherePart t cs,
    groupPart t cs,
    havingPart t cs,
    orderPart t cs].mapM id
  let paging := [(window.bind t.dialect.limit).getD ∅, (window.bind t.dialect.offset).getD ∅]
  let unions ← unionPart t cs
  let lock : Fragment := ((mode.bind t.dialect.lock).getD "" : String)
  return .sentence (parts ++ paging ++ [unions, lock])

variable {isDistinct : Bool} {cs : List (Clause SubSelect)} {f : Fragment}

theorem selectExpanded_eq :
    selectExpanded t isDistinct cs = windowOf t (withColumns t cs) >>= fun window =>
      selectWith t window isDistinct (withColumns t cs) := rfl

theorem selectExpanded_parts (h : selectExpanded t isDistinct cs = .ok f) :
    ∃ window parts, f = .sentence parts ∧
      ∀ x ∈ clauseParts t window isDistinct (withColumns t cs), ∃ p ∈ parts, x = .ok p := by
  obtain ⟨window, -, h⟩ := exists_of_bind_ok h
  obtain ⟨mode, -, h⟩ := exists_of_bind_ok h
  obtain ⟨parts, hparts, h⟩ := exists_of_bind_ok h
  obtain ⟨unions, hunions, rfl⟩ := exists_of_bind_pure h
  refine ⟨window, _, rfl, fun x hx => ?_⟩
  rcases List.mem_append.mp hx with hx | hx
  · obtain ⟨p, hp, hrun⟩ := exists_of_mem_of_mapM_ok hparts hx
    exact ⟨p, List.mem_append_left _ (List.mem_append_left _ hp), hrun⟩
  · rw [List.mem_singleton.mp hx]
    exact ⟨unions, List.mem_append_right _ List.mem_cons_self, hunions⟩

theorem selectExpanded_of_select (h : select t isDistinct cs = .ok f) :
    selectExpanded t isDistinct (expanded t cs) = .ok f := by
  obtain ⟨ds, hds, h⟩ := exists_of_bind_ok h
  rw [expandPaths_eq] at hds
  cases hstranded : stranded? t cs with
  | none =>
    rw [hstranded] at hds
    rw [Except.ok.inj hds]
    exact h
  | some j =>
    rw [hstranded] at hds
    cases hds

theorem starts_select (e : Fragment) : Starts ("SELECT " ++ e).text :=
  Starts.append ⟨'S', "ELECT ".toList, by decide, by decide⟩ _

theorem starts_aggregatePart {window : Option Window} (hseen : visible cs "aggregate" t.engine ≠ [])
    (h : aggregatePart t window isDistinct cs = .ok f) : Starts f.text := by
  unfold aggregatePart at h
  split at h
  · next hnone => exact absurd ((effectiveItem_eq_none_iff _ _ _).mp hnone) hseen
  · obtain rfl := Except.ok.inj h
    simp only [Fragment.append_assoc]
    exact starts_select _
  · cases h

theorem starts_columnsPart {window : Option Window} (hnone : visible cs "aggregate" t.engine = [])
    (hseen : anyVisible cs "select" t.engine) (h : columnsPart t window isDistinct cs = .ok f) :
    Starts f.text := by
  rw [columnsPart_of_columns hnone hseen] at h
  obtain ⟨list, -, rfl⟩ := exists_of_bind_pure h
  simp only [Fragment.append_assoc]
  exact starts_select _

/-- Every select has columns or an aggregate to show. -/
theorem solid_selectExpanded (h : selectExpanded t isDistinct cs = .ok f) : Solid f.text := by
  obtain ⟨window, parts, rfl, hparts⟩ := selectExpanded_parts h
  have hsome : ∃ p ∈ parts, Starts p.text := by
    by_cases haggregate : visible (withColumns t cs) "aggregate" t.engine = []
    · obtain ⟨p, hp, hrun⟩ := hparts _ (.tail _ (.head _))
      exact ⟨p, hp, starts_columnsPart haggregate anyVisible_withColumns_select hrun⟩
    · obtain ⟨p, hp, hrun⟩ := hparts _ (.head _)
      exact ⟨p, hp, starts_aggregatePart haggregate hrun⟩
  obtain ⟨p, hp, hstarts⟩ := hsome
  exact solid_sentence hp hstarts.inked.strip.ne_empty

theorem solid_select (h : select t isDistinct cs = .ok f) : Solid f.text :=
  solid_selectExpanded (selectExpanded_of_select h)

/-- What a statement writes behind its WITH list. -/
def command (t : Target) (b : Block SubSelect) : Except CompileError Fragment :=
  match b.method with
  | .change .insert => insert t b.clauses
  | .change .update => update t b.clauses
  | .change .delete => delete t b.clauses
  | .select => select t b.isDistinct b.clauses

theorem statement_parts {b : Block SubSelect} (h : statement t b = .ok f) :
    ∃ ctes sql, withList t.dialect b.clauses = .ok ctes ∧ command t b = .ok sql ∧
      f = ctes ++ sql := by
  obtain ⟨ctes, hctes, h⟩ := exists_of_bind_ok h
  obtain ⟨cs, method, isDistinct, aliasName⟩ := b
  have hcommand : command t ⟨cs, method, isDistinct, aliasName⟩ >>=
      (fun sql => .ok (ctes ++ sql)) = .ok f := by
    rw [← h]
    rcases method with _ | (_ | _ | _) <;> rfl
  obtain ⟨sql, hsql, rfl⟩ := exists_of_bind_pure hcommand
  exact ⟨ctes, sql, hctes, hsql, rfl⟩

end Sql

/-- Only a WITH list, or a change, makes a statement differ from the nested query. -/
theorem Query.compile_eq_select {t : Target} {n : Query} (hselect : n.block.method = .select)
    (hcte : visible n.block.clauses "cte" t.engine = []) :
    n.compile t = (n.subSelect t).select := by
  have hnone : Sql.withList t.dialect (n.block.map (Query.subSelect t)).clauses = .ok ∅ := by
    rw [Sql.withList, Block.map, visible_map, hcte]
    rfl
  have hmethod : (n.block.map (Query.subSelect t)).method = .select := hselect
  rw [Query.compile, Query.subSelect_eq, Sql.statement, hnone, hmethod]
  show (Sql.select t _ _ >>= fun sql => pure (∅ ++ sql)) = Sql.select t _ _
  simp only [Fragment.empty_append, bind_pure]

end PolySql
