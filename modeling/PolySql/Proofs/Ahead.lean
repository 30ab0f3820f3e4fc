import PolySql.Proofs.Portable.Statement
import PolySql.Proofs.Reading

/-!
Expansion ahead of time. Main statement: a query with its path joins expanded compiles as the query
itself, whatever its method, and no select ever meets a path join among its joins.
-/

namespace PolySql

namespace Sql

variable {t : Target} {cs : List (Clause SubSelect)}

/-- A select expands nothing twice. -/
theorem select_expanded (h : stranded? t cs = none) (isDistinct : Bool) :
    select t isDistinct (expanded t cs) = select t isDistinct cs := by
  have htwice : expandPaths t (expanded t cs) = expandPaths t cs := by
    rw [expandPaths_of_pathJoins_eq_nil (pathJoins_expanded cs), expandPaths_eq, h]
  rw [select, select, htwice]

/-- The WITH list and the changes of rows are written from clauses that expansion leaves as they
are. -/
theorem statement_expanded {b : Block SubSelect} (hpaths : PathsJoined b.clauses)
    (h : stranded? t b.clauses = none) :
    statement t { b with clauses := expanded t b.clauses } = statement t b := by
  have hother : ∀ component, component ≠ "join" →
      visible (expanded t b.clauses) component t.engine = visible b.clauses component t.engine :=
    fun component hcomponent => visible_expanded hpaths hcomponent
  have hfrom := effective_congr (hother "from" (by decide))
  have hwhere := hother "where" (by decide)
  simp only [statement, withList_congr (hother "cte" (by decide)),
    insert_congr hfrom (effective_congr (hother "insert" (by decide))),
    update_congr hfrom hwhere (effective_congr (hother "update" (by decide))),
    delete_congr hfrom hwhere, select_expanded h]

theorem no_path_among_joins {ds : List (Clause SubSelect)} (h : expandPaths t cs = .ok ds) :
    ∀ c ∈ visible (withColumns t ds) "join" t.engine, ∀ j, c.item ≠ .join (.path j) := by
  rw [visible_withColumns (by decide), (expandPaths_eq_ok_iff.mp h).2]
  exact ne_path_of_visible (pathJoins_expanded cs)

end Sql

/-- Beside itself a target fails as it does, and never at a path join among the joins. -/
theorem portable_self (t : Target) :
    Portable t t (fun e _ => e ≠ .unrecognized "DeepJoinClause" .join) (fun _ _ => True)
      fun _ => True where
  options := rfl
  wildcard := rfl
  marks _ := rfl
  miscount _ _ := by simp
  refused _ h := h
  same _ := trivial
  append _ _ := trivial
  window _ _ := trivial

/-- Expanding ahead changes nothing: the path joins that a select would expand are all that it
expands, and no other statement looks at them. Once expanded, none is left among the joins, at no
depth. -/
theorem compile_of_expandPaths (t : Target) (q : Query) :
    (∀ b, PathsJoined q.block.clauses → q.block.expandPaths t = .ok b →
      (Query.ofBlock b).compile t = q.compile t) ∧
    (∀ cs ds : List (Clause SubSelect), expandPaths t cs = .ok ds →
      ∀ c ∈ visible (Sql.withColumns t ds) "join" t.engine, ∀ j, c.item ≠ .join (.path j)) ∧
    ∀ j : PathJoin,
      q.compile t ≠ .error (.unrecognized (JoinClause.path j (Q := Query)).kind .join) := by
  refine ⟨fun b hpaths h => ?_, fun cs ds => Sql.no_path_among_joins, fun j hj => ?_⟩
  · have hname := Query.aliasName?_subSelect t
    obtain ⟨ds, hds, h⟩ := exists_of_bind_ok h
    obtain ⟨hstranded, rfl⟩ := expandPaths_eq_ok_iff.mp hds
    obtain rfl := Except.ok.inj h
    have hsame := Sql.statement_expanded (b := q.block.map (Query.subSelect t)) (hpaths.map _)
      ((stranded?_map hname _).trans hstranded)
    simp only [Block.map, expanded_map hname] at hsame
    exact hsame
  · have hself := (portable_self t).compile (q := q) (fun _ _ => rfl) fun _ _ => trivial
    rw [hj] at hself
    exact hself.of_error rfl

/-- The titles of posts that have an author. -/
def postsByAuthor : Query :=
  .ofBlock ⟨[⟨"join", wildcard, .join (.path ⟨"Author", .inner, none, none, none, none⟩)⟩,
    ⟨"select", wildcard, .column (.named "Title")⟩, ⟨"from", wildcard, .table (.named "Posts")⟩],
    .select, false, none⟩

set_option maxRecDepth 20000 in
theorem postsByAuthor_expanded_ahead :
    PathsJoined postsByAuthor.block.clauses ∧
      ∃ b, postsByAuthor.block.expandPaths ⟨.mysql, {}⟩ = .ok b ∧
        hasPathJoin ⟨.mysql, {}⟩ b.clauses = false ∧
        (Query.ofBlock b).compile ⟨.mysql, {}⟩ = postsByAuthor.compile ⟨.mysql, {}⟩ ∧
        postsByAuthor.compile ⟨.mysql, {}⟩ =
          .ok ⟨"SELECT `Title` FROM `Posts` INNER JOIN `Author` ON `Posts`.`AuthorId` = " ++
            "`Author`.`Id`", []⟩ := by
  have hpaths : PathsJoined postsByAuthor.block.clauses := by
    intro c hc j hj
    simp only [postsByAuthor, Query.block, List.mem_cons, List.not_mem_nil, or_false] at hc
    rcases hc with rfl | rfl | rfl
    · rfl
    · cases hj
    · cases hj
  obtain ⟨hahead, -, -⟩ := compile_of_expandPaths ⟨.mysql, {}⟩ postsByAuthor
  have hrun : postsByAuthor.block.expandPaths ⟨.mysql, {}⟩ =
      .ok ⟨expanded ⟨.mysql, {}⟩ postsByAuthor.block.clauses, .select, false, none⟩ := by rfl
  exact ⟨hpaths, _, hrun, by rfl, hahead _ hpaths hrun, by rfl⟩

end PolySql
