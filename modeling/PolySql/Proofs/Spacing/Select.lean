import PolySql.Proofs.Parts
import PolySql.Proofs.Portable.Inventory
import PolySql.Proofs.Spacing.Part

/-!
Selects with single spaces. Main statement: for a built-in dialect, a select whose texts are neat is
compiled to SQL that opens with SELECT or WITH, has no blanks at its ends, and only single spaces.
-/

namespace PolySql

open Text Fragment

section Sentence

variable {f : Fragment} {fs : List Fragment}

theorem isNeat_sentence (hf : f.IsNeat) (hmem : f ∈ fs) (h : ∀ g ∈ fs, g.IsTidy) :
    (sentence fs).IsNeat := by
  have hneat : ∀ g ∈ (fs.map Fragment.strip).filter (·.text ≠ ""), g.IsNeat := by
    intro g hg
    obtain ⟨hg, hwritten⟩ := List.mem_filter.mp hg
    obtain ⟨e, he, rfl⟩ := List.mem_map.mp hg
    rw [(h e he).strip] at hwritten ⊢
    exact (h e he).resolve_left (by simpa using hwritten)
  refine IsNeat.separated (s := " ") (by decide) (List.ne_nil_of_mem (a := f) ?_) hneat
  refine List.mem_filter.mpr ⟨List.mem_map.mpr ⟨f, hmem, hf.strip⟩, ?_⟩
  simpa using hf.toSolid.nonempty

theorem isSelect_sentence (hf : f.IsSelect) (h : ∀ g ∈ fs, g.IsTidy) :
    (sentence (f :: fs)).IsSelect := by
  refine ⟨isNeat_sentence hf.neat List.mem_cons_self ?_, ?_⟩
  · exact List.forall_mem_cons.mpr ⟨hf.neat.tidy, h⟩
  · obtain ⟨rest, hrest⟩ := hf.opening
    have hstrip := hf.neat.strip
    have hwritten : f.strip.text ≠ "" := by
      rw [hstrip]
      exact hf.neat.toSolid.nonempty
    rw [sentence_cons hwritten, hstrip, hrest]
    exact ⟨rest ++ spaced true (fs.map Fragment.strip), append_assoc _ _ _⟩

end Sentence

section Clauses

variable {t : Target} (hd : t.dialect.IsNeat) (ho : t.options.IsNeat)
  {cs : List (Clause SubSelect)} (h : ∀ c ∈ cs, c.item.IsNeat)

include h

theorem isNeat_withColumns : ∀ c ∈ Sql.withColumns t cs, c.item.IsNeat := by
  unfold Sql.withColumns
  split
  · exact h
  · refine List.forall_mem_append.mpr ⟨h, List.forall_mem_singleton.mpr ⟨?_, ?_⟩⟩
    · exact List.forall_mem_singleton.mpr (Wording.fits_name.mpr (by decide))
    · intro q hq
      cases hq

include hd ho

/-- Either the aggregate or the columns open a select, never both. -/
theorem isSelect_opening {window : Option Window} {isDistinct : Bool}
    (hselect : anyVisible cs "select" t.engine) {first second : Fragment} {rest : List Fragment}
    (hfirst : Sql.aggregatePart t window isDistinct cs = .ok first)
    (hsecond : Sql.columnsPart t window isDistinct cs = .ok second)
    (hrest : ∀ f ∈ rest, f.IsTidy) : (sentence (first :: second :: rest)).IsSelect := by
  by_cases hseen : visible cs "aggregate" t.engine = []
  · rw [Sql.aggregatePart_of_unseen hseen] at hfirst
    obtain rfl := Except.ok.inj hfirst
    rw [sentence_empty_cons]
    exact isSelect_sentence
      (yields_columnsPart hd h window isDistinct hseen hselect _ hsecond) hrest
  · rw [Sql.columnsPart_of_aggregate hseen] at hsecond
    obtain rfl := Except.ok.inj hsecond
    exact isSelect_sentence (yields_aggregatePart hd h ho window isDistinct hseen _ hfirst)
      (List.forall_mem_cons.mpr ⟨.inl rfl, hrest⟩)

theorem yields_selectExpanded (isDistinct : Bool) :
    Yields Fragment.IsSelect (Sql.selectExpanded t isDistinct cs) := by
  have hall := isNeat_withColumns (t := t) h
  refine (Yields.trivial _).bind fun window _ => (Yields.trivial _).bind fun mode _ => ?_
  have hparts : ∀ x ∈ [Sql.fromPart t (Sql.withColumns t cs), Sql.joinPart t (Sql.withColumns t cs),
      Sql.wherePart t (Sql.withColumns t cs), Sql.groupPart t (Sql.withColumns t cs),
      Sql.havingPart t (Sql.withColumns t cs), Sql.orderPart t (Sql.withColumns t cs)],
      Yields IsTidy x := by
    simp only [List.forall_mem_cons, List.not_mem_nil, false_implies, implies_true, and_true]
    exact ⟨yields_fromPart hd hall, yields_joinPart hd hall, yields_wherePart hd hall,
      yields_groupPart hd hall, yields_havingPart hd hall, yields_orderPart hd hall⟩
  intro f hf
  obtain ⟨parts, hrun, hf⟩ := exists_of_bind_ok hf
  obtain ⟨unions, hunions, rfl⟩ := exists_of_bind_pure hf
  obtain ⟨first, later, hfirst, hlater, rfl⟩ :=
    List.forall₂_cons_left_iff.mp (mapM_eq_ok_iff.mp hrun)
  obtain ⟨second, rest, hsecond, hrest, rfl⟩ := List.forall₂_cons_left_iff.mp hlater
  simp only [List.cons_append]
  refine isSelect_opening hd ho hall Sql.anyVisible_withColumns_select hfirst hsecond ?_
  simp only [List.forall_mem_append, List.forall_mem_cons, List.not_mem_nil, false_implies,
    implies_true, and_true]
  exact ⟨⟨Yields.mapM hparts rest (mapM_eq_ok_iff.mpr hrest),
    isTidy_window (isNeat_limit hd) window, isTidy_window (isNeat_offset hd) window⟩,
    yields_unionPart hd hall unions hunions, isTidy_lock mode⟩

theorem yields_select (hkeyless : ∀ c ∈ cs, c.item.Keyless) (isDistinct : Bool) :
    Yields Fragment.IsSelect (Sql.select t isDistinct cs) := by
  intro f hf
  have hjoins := isNeat_expanded (fun _ => singleSpaced_singular) ho h hkeyless
  exact yields_selectExpanded hd ho hjoins isDistinct f
    (Sql.selectExpanded_of_select hf)

omit ho in
/-- The WITH list ends in a space. -/
theorem yields_withList :
    Yields (fun f => f = ∅ ∨ ∃ list : Fragment, list.IsNeat ∧ f = "WITH " ++ list ++ " ")
      (Sql.withList t.dialect cs) := by
  rw [Sql.withList_eq_ite]
  split
  · next hseen =>
    have hlist := yields_separated (s := ", ") (by decide) ((anyVisible_iff _ _ _).mp hseen)
      fun c hc => hd.cte (h c (List.mem_of_mem_filter hc))
    exact hlist.bind fun fs hfs => .pure (.inr ⟨_, hfs, rfl⟩)
  · exact .of_ok (.inl rfl)

end Clauses

theorem Body.keyless_map {Q R : Type} (f : Q → R) (b : Body Q) :
    (b.map f).Keyless ↔ b.Keyless := by
  cases b with
  | join j => cases j <;> exact Iff.rfl
  | _ => exact Iff.rfl

namespace Query.Tidy

variable {t : Target} (hd : t.dialect.IsNeat) (ho : t.options.IsNeat) {q : Query}

theorem nested (h : q.Tidy) : ∀ n ∈ q.block.nested, n.Tidy := by
  cases h with
  | ofBlock texts keyless nested => exact nested

theorem keyless (h : q.Tidy) :
    ∀ c ∈ (q.block.map (Query.subSelect t)).clauses, c.item.Keyless := by
  cases h with
  | ofBlock texts keyless nested =>
    exact List.forall_mem_map.mpr fun c hc => (Body.keyless_map _ _).mpr (keyless c hc)

theorem clauses (h : q.Tidy) (hnested : ∀ n ∈ q.block.nested, (n.subSelect t).IsNeat) :
    ∀ c ∈ (q.block.map (Query.subSelect t)).clauses, c.item.IsNeat := by
  cases h with
  | ofBlock texts keyless nested =>
    refine List.forall_mem_map.mpr fun c hc => ⟨?_, ?_⟩
    · show ∀ w ∈ (c.item.map (Query.subSelect t)).wordings, w.Fits
      rw [Body.wordings_map]
      exact fun w hw => Wording.fits_of_neat
        (texts w (List.mem_append_left _ (List.mem_flatMap.mpr ⟨c, hc, hw⟩)))
    · show ∀ s ∈ (c.item.map (Query.subSelect t)).nested, s.IsNeat
      rw [Body.nested_map]
      exact List.forall_mem_map.mpr fun n hn =>
        hnested n (List.mem_flatMap.mpr ⟨c, hc, hn⟩)

include hd ho

theorem subSelect (h : q.Tidy) : (q.subSelect t).IsNeat := by
  induction h with
  | @ofBlock b texts keyless nested ih =>
    have htidy : (Query.ofBlock b).Tidy := .ofBlock texts keyless nested
    rw [Query.subSelect_eq]
    constructor
    · intro s hs
      exact (texts (.name s) (List.mem_append_right _
        (List.mem_map_of_mem (Option.mem_toList.mpr hs)))).spaced
    · intro f hf
      exact (yields_select hd ho (htidy.clauses ih) htidy.keyless b.isDistinct f hf).neat

end Query.Tidy

/-- For a built-in dialect, whatever the parts of a select and of the queries nested in it are, if
its texts are neat and it is compiled, then to SQL that opens with SELECT or WITH, with no blanks at
its ends and no two spaces next to each other. -/
theorem select_singleSpaced {t : Target} (ht : t.dialect ∈ Dialect.builtin) (ho : t.options.IsNeat)
    {q : Query} (hq : q.Tidy) (hselect : q.block.method = .select) {f : Fragment}
    (h : q.compile t = .ok f) :
    ((∃ rest, f.text = "SELECT" ++ rest) ∨ ∃ rest, f.text = "WITH " ++ rest) ∧
      Text.strip f.text = f.text ∧ ¬ [' ', ' '] <:+: f.text.toList := by
  have hd := Dialect.isNeat_of_mem_builtin ht
  have hclauses := hq.clauses fun n hn => (hq.nested n hn).subSelect hd ho
  obtain ⟨ctes, sql, hctes, hsql, rfl⟩ := Sql.statement_parts h
  have hmethod : (q.block.map (Query.subSelect t)).method = .select := hselect
  rw [Sql.command, hmethod] at hsql
  obtain ⟨hsql, rest, hrest⟩ := yields_select hd ho hclauses hq.keyless _ sql hsql
  rcases yields_withList hd hclauses ctes hctes with rfl | ⟨list, hlist, rfl⟩
  · rw [Fragment.empty_append]
    exact ⟨.inl ⟨" " ++ rest.text, by rw [hrest]; rfl⟩, hsql.toSolid.strip, hsql.spaced⟩
  · have hwhole : ("WITH " ++ list ++ " " ++ sql : Fragment).IsNeat :=
      (hlist.before (by decide)).between hsql (by decide)
    refine ⟨.inr ⟨list.text ++ " " ++ sql.text, ?_⟩, hwhole.toSolid.strip, hwhole.spaced⟩
    simp only [Fragment.text_append, String.append_assoc]

/-- Names of adults. -/
def adultUsers : Query :=
  .ofBlock ⟨[⟨"select", wildcard, .column (.named "name")⟩,
    ⟨"from", wildcard, .table (.named "users")⟩,
    ⟨"where", wildcard, .condition (.test ⟨false, false⟩
      (.compare "age" ">=" (.value (.int 18))))⟩], .select, false, none⟩

/-- Posts with their authors next to a definition of adults. One condition has no members, another
is for another engine, and there is no seed and no column. -/
def authoredPosts : Query :=
  .ofBlock ⟨[⟨"cte", wildcard, .table (.derived adultUsers (some "adults"))⟩,
    ⟨"from", wildcard, .table (.named "Posts as P")⟩,
    ⟨"join", wildcard, .join (.path ⟨"Author", .left, none, none, none, none⟩)⟩,
    ⟨"where", wildcard, .condition (.group ⟨false, true⟩ [])⟩,
    ⟨"where", "mysql", .condition (.test ⟨false, false⟩ (.isNull "P.title"))⟩,
    ⟨"order", wildcard, .order (.random "")⟩, ⟨"lock", wildcard, .lock .share⟩],
    .select, false, none⟩

theorem tidy_adultUsers : adultUsers.Tidy := by
  refine .ofBlock (by decide) (by simp [Body.Keyless]) ?_
  intro q hq
  cases hq

theorem tidy_authoredPosts : authoredPosts.Tidy := by
  refine .ofBlock (by decide) (by simp [Body.Keyless]) ?_
  exact List.forall_mem_singleton.mpr tidy_adultUsers

theorem authoredPosts_text :
    (authoredPosts.compile ⟨.sqlite, {}⟩).toOption.map (·.text) =
      some ("WITH \"adults\" AS (SELECT \"name\" FROM \"users\" WHERE \"age\" >= ?) " ++
        "SELECT * FROM \"Posts\" AS \"P\" " ++
        "LEFT JOIN \"Author\" ON \"P\".\"AuthorId\" = \"Author\".\"Id\" ORDER BY RANDOM()") := by
  decide +kernel

theorem authoredPosts_singleSpaced :
    ∃ f, authoredPosts.compile ⟨.sqlite, {}⟩ = .ok f ∧
      ((∃ rest, f.text = "SELECT" ++ rest) ∨ ∃ rest, f.text = "WITH " ++ rest) ∧
      Text.strip f.text = f.text ∧ ¬ [' ', ' '] <:+: f.text.toList := by
  cases hrun : authoredPosts.compile ⟨.sqlite, {}⟩ with
  | error e =>
    have htext := authoredPosts_text
    rw [hrun] at htext
    cases htext
  | ok f =>
    exact ⟨f, rfl, select_singleSpaced (.head _) ⟨by decide, by decide, by decide⟩
      tidy_authoredPosts rfl hrun⟩

end PolySql
