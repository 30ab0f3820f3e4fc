import PolySql.Proofs.Shared.Emission

/-!
Lists of conditions, flattened with a shared binder. Main statement: the conditions under HAVING
come out as in a filter, the same ones with the same connectors and bindings, but each behind a
keyword of its own.
-/

namespace PolySql

/-- What becomes of the answer of a run does not concern its binder. -/
theorem Writer.map_apply {α β : Type} (f : α → β) (x : Writer α) (bs : List Json) :
    (f <$> x) bs = (x bs).map fun result => (f result.1, result.2) := by
  show (x bs >>= fun result => .ok (f result.1, result.2)) = _
  cases x bs <;> rfl

namespace Shared

open Writer

section Loop

variable (d : Dialect)

/-- Writes conditions behind the parts that are written already. One that the target does not see
or that comes out blank is passed over; every other one but the first is led by its connector. -/
def buildFrom (parts : List String) : List (Clause Nested) → Writer (List String)
  | [] => return parts
  | c :: rest =>
    if c.appliesTo d.name then do
      let term ← clauseTerm d c
      if term.2 = "" then buildFrom parts rest
      else
        let connector := if parts = [] then "" else if term.1 then "OR " else "AND "
        buildFrom (parts ++ [connector ++ term.2]) rest
    else buildFrom parts rest

/-- A list of conditions as one expression, written part by part. -/
def build (cs : List (Clause Nested)) : Writer String :=
  String.intercalate " " <$> buildFrom d [] cs

/-- The conditions that the target sees, rendered in their order. -/
def seenTerms (cs : List (Clause Nested)) : Writer (List (Bool × String)) :=
  (cs.filter (·.appliesTo d.name)).mapM (clauseTerm d)

theorem seenTerms_of_seen {c : Clause Nested} (h : c.appliesTo d.name)
    (rest : List (Clause Nested)) :
    seenTerms d (c :: rest) = do
      let term ← clauseTerm d c
      let terms ← seenTerms d rest
      return term :: terms := by
  rw [seenTerms, List.filter_cons, if_pos h, List.mapM_cons]
  rfl

theorem seenTerms_of_unseen {c : Clause Nested} (h : ¬ c.appliesTo d.name)
    (rest : List (Clause Nested)) : seenTerms d (c :: rest) = seenTerms d rest := by
  rw [seenTerms, List.filter_cons, if_neg h, ← seenTerms]

theorem intercalate_concat {parts : List String} (h : parts ≠ []) (s : String) :
    String.intercalate " " (parts ++ [s]) = String.intercalate " " parts ++ " " ++ s := by
  rw [String.intercalate_append_of_ne_nil h (List.cons_ne_nil _ _), String.intercalate_singleton]

theorem space_append_connector (isOr : Bool) :
    " " ++ (if isOr then "OR " else "AND ") = if isOr then " OR " else " AND " := by
  cases isOr <;> rfl

/-- What one condition adds to the parts before it. -/
theorem intercalate_part {parts : List String} {term : Bool × String} (hterm : term.2 ≠ "")
    (rest : List (Bool × String)) :
    String.intercalate " " (parts ++
        [(if parts = [] then "" else if term.1 then "OR " else "AND ") ++ term.2]) ++
        connectFrom "" true rest =
      String.intercalate " " parts ++ connectFrom "" (!parts.isEmpty) (term :: rest) := by
  rw [connectFrom, if_neg hterm]
  by_cases hparts : parts = []
  · subst hparts
    simp
  · rw [intercalate_concat hparts, if_neg hparts, ← space_append_connector]
    simp [hparts, String.append_assoc]

/-- The loop puts what is connected behind the parts that it starts with. -/
theorem intercalate_buildFrom (parts : List String) (cs : List (Clause Nested)) :
    String.intercalate " " <$> buildFrom d parts cs =
      (fun terms => String.intercalate " " parts ++ connectFrom "" (!parts.isEmpty) terms) <$>
        seenTerms d cs := by
  induction cs generalizing parts with
  | nil =>
    rw [buildFrom, seenTerms, List.filter_nil, List.mapM_nil, map_pure, map_pure, connectFrom,
      String.append_empty]
  | cons c rest ih =>
    by_cases hseen : c.appliesTo d.name
    · rw [buildFrom, if_pos hseen, seenTerms_of_seen d hseen, map_bind, map_bind]
      refine bind_congr fun term => ?_
      simp only [bind_pure_comp, Functor.map_map]
      by_cases hterm : term.2 = ""
      · rw [if_pos hterm, ih]
        simp only [connectFrom, hterm, if_true]
      · rw [if_neg hterm, ih]
        refine congrArg (· <$> seenTerms d rest) (funext fun terms => ?_)
        have hstarted : ∀ part, (!(parts ++ [part]).isEmpty) = true := by simp
        rw [hstarted, intercalate_part hterm]
    · rw [buildFrom, if_neg hseen, seenTerms_of_unseen d hseen, ih]

theorem build_eq (cs : List (Clause Nested)) : build d cs = connect "" <$> seenTerms d cs := by
  rw [build, intercalate_buildFrom]
  simp only [String.intercalate_nil, String.empty_append]
  rfl

/-- Members of a group, or conditions of a join, are read as any list of conditions. -/
theorem memberTerms_eq_seenTerms (members : List (Scoped (Condition Nested))) :
    memberTerms d members = seenTerms d (members.map (Scoped.map .condition)) := by
  induction members with
  | nil => rfl
  | cons c rest ih =>
    obtain ⟨component, engine, c⟩ := c
    rw [memberTerms, ih, List.map_cons]
    set clause : Clause Nested := Scoped.map .condition ⟨component, engine, c⟩
    have happlies : clause.appliesTo d.name = (engine == wildcard || engine == d.name) := rfl
    by_cases hseen : clause.appliesTo d.name
    · rw [← happlies, if_pos hseen, seenTerms_of_seen d hseen]
      simp only [clause, Scoped.map, clauseTerm, bind_assoc, pure_bind]
    · rw [← happlies, if_neg hseen, seenTerms_of_unseen d hseen]

end Loop

section Connection

/-- Conditions in a row, every one behind `lead`, and every one but the first behind its connector
too. -/
def connected (lead : String) : List (Bool × String) → String
  | [] => ""
  | term :: rest => lead ++ term.2 ++ continued lead rest
where
  continued (lead : String) : List (Bool × String) → String
    | [] => ""
    | term :: rest =>
      (if term.1 then " OR " else " AND ") ++ lead ++ term.2 ++ continued lead rest

theorem connectFrom_true (lead : String) (terms : List (Bool × String)) :
    connectFrom lead true terms = connected.continued lead (terms.filter (·.2 ≠ "")) := by
  induction terms with
  | nil => rfl
  | cons term rest ih =>
    by_cases hterm : term.2 = ""
    · simp [connectFrom, hterm, ih]
    · simp [connectFrom, hterm, ih, connected.continued]

/-- Blank conditions leave no trace. -/
theorem connect_eq_connected (lead : String) (terms : List (Bool × String)) :
    connect lead terms = connected lead (terms.filter (·.2 ≠ "")) := by
  induction terms with
  | nil => rfl
  | cons term rest ih =>
    rw [connect] at ih ⊢
    by_cases hterm : term.2 = ""
    · simp [connectFrom, hterm, ih]
    · simp [connectFrom, hterm, connectFrom_true, connected]

theorem connected_eq_empty_iff {lead : String} {items : List (Bool × String)}
    (h : ∀ item ∈ items, item.2 ≠ "") : connected lead items = "" ↔ items = [] := by
  cases items with
  | nil => simp [connected]
  | cons item rest =>
    have hitem := h item List.mem_cons_self
    simp [connected, String.append_eq_empty_iff, hitem]

end Connection

section Component

variable (t : Target)

/-- Under one component, a clause is seen if its engine is. -/
theorem visible_eq_filter {α : Type} {cs : List (Scoped α)} {component : String}
    (h : ∀ c ∈ cs, c.component = component) (engine : String) :
    visible cs component engine = cs.filter (·.appliesTo engine) :=
  List.filter_congr fun c hc => by simp [h c hc]

theorem havingPart_eq_seenTerms {cs : List (Clause Nested)}
    (h : ∀ c ∈ cs, c.component = "having") :
    havingPart t cs = connect "HAVING " <$> seenTerms t.dialect cs := by
  rw [havingPart, visible_eq_filter h]
  rfl

/-- A clause in the place of another component. -/
def placed {α : Type} (component : String) (c : Scoped α) : Scoped α :=
  { c with component := component }

theorem seenTerms_placed (component : String) (cs : List (Clause Nested)) :
    seenTerms t.dialect (cs.map (placed component)) = seenTerms t.dialect cs := by
  rw [seenTerms, List.filter_map, List.mapM_map]
  rfl

/-- The filter of a statement with a table is what the loop makes of its conditions. -/
theorem wherePart_placed {table : Clause Nested} (htable : table.component = "from")
    (hseen : table.appliesTo t.engine) (cs : List (Clause Nested)) :
    wherePart t (table :: cs.map (placed "where")) =
      (fun sql => if sql = "" then "" else "WHERE " ++ sql) <$> build t.dialect cs := by
  have hfrom : anyVisible (table :: cs.map (placed "where")) "from" t.engine := by
    simp [anyVisible, htable, hseen]
  have hconditions : visible (table :: cs.map (placed "where")) "where" t.engine =
      (cs.map (placed "where")).filter (·.appliesTo t.engine) := by
    have hplaced : ∀ c ∈ cs.map (placed "where"), c.component = "where" := by simp [placed]
    rw [← visible_eq_filter hplaced, visible, List.filter_cons, if_neg (by simp [htable])]
    rfl
  rw [wherePart, if_pos hfrom, hconditions, build_eq, Functor.map_map, ← seenTerms_placed t "where"]
  rfl

end Component

end Shared

namespace Query

/-- Clauses with the queries nested in them as the runs that write them. -/
abbrev nestedAll (t : Target) (cs : List (Clause Query)) : List (Clause Nested) :=
  cs.map (Scoped.map (Body.map (Query.nested t)))

/-- Clauses with the queries nested in them compiled. -/
abbrev compiledAll (t : Target) (cs : List (Clause Query)) : List (Clause SubSelect) :=
  cs.map (Scoped.map (Body.map (Query.subSelect t)))

theorem nestedAll_eq (t : Target) (cs : List (Clause Query)) :
    nestedAll t cs = Shared.shareAll (compiledAll t cs) := by
  rw [nestedAll, Shared.shareAll, compiledAll, List.map_map]
  refine List.map_congr_left fun c _ => ?_
  have hitem : (c.item.map (subSelect t)).map SubSelect.shared = c.item.map (nested t) :=
    Body.map_map fun q _ => (q.nested_eq t).symm
  simp only [Function.comp_apply, Scoped.map, hitem]

theorem nestedAll_members (t : Target) (members : List (Scoped (Condition Query))) :
    nestedAll t (members.map (Scoped.map .condition)) =
      (members.map (Scoped.map (Condition.map (Query.nested t)))).map (Scoped.map .condition) := by
  simp only [List.map_map]
  rfl

end Query

open Query Shared in
/-- Conditions under HAVING are flattened as those of a filter are. Behind whatever is bound, both
are refused with the same error, or both show the same conditions, those that are seen and do not
come out blank, with the same connectors in front of all but the first and with the same bindings;
under HAVING every one stands behind the keyword. What is shown is what a select has for its groups,
what it has for its filter if the conditions are put there, and what a group or a join makes of
them. -/
theorem having_flattened (t : Target) {cs : List (Clause Query)}
    (hcs : ∀ c ∈ cs, c.component = "having") :
    (∀ bs,
      (∃ e, havingPart t (nestedAll t cs) bs = .error e ∧
        build t.dialect (nestedAll t cs) bs = .error e) ∨
      ∃ terms bound, seenTerms t.dialect (nestedAll t cs) bs = .ok (terms, bound) ∧
        build t.dialect (nestedAll t cs) bs =
          .ok (connected "" (terms.filter (·.2 ≠ "")), bound) ∧
        havingPart t (nestedAll t cs) bs =
          .ok (connected "HAVING " (terms.filter (·.2 ≠ "")), bound) ∧
        (connected "HAVING " (terms.filter (·.2 ≠ "")) = "" ↔
          connected "" (terms.filter (·.2 ≠ "")) = "")) ∧
    havingPart t (nestedAll t cs) = Writer.emit (Sql.havingPart t (compiledAll t cs)) ∧
    (∀ table : Clause Query, table.component = "from" → table.appliesTo t.engine →
      Writer.emit (Sql.wherePart t (compiledAll t (table :: cs.map (placed "where")))) =
        (fun sql => if sql = "" then "" else "WHERE " ++ sql) <$>
          build t.dialect (nestedAll t cs)) ∧
    ∀ members : List (Scoped (Condition Query)), cs = members.map (Scoped.map .condition) →
      connect "" <$> memberTerms t.dialect
          (members.map (Scoped.map (Condition.map (Query.nested t)))) =
        build t.dialect (nestedAll t cs) := by
  have hcomponent : ∀ c ∈ nestedAll t cs, c.component = "having" := by
    intro c hc
    obtain ⟨d, hd, rfl⟩ := List.mem_map.mp hc
    exact hcs d hd
  refine ⟨fun bs => ?_, ?_, fun table htable hseen => ?_, ?_⟩
  · rw [havingPart_eq_seenTerms t hcomponent, build_eq]
    simp only [Writer.map_apply]
    cases seenTerms t.dialect (nestedAll t cs) bs with
    | error e => exact .inl ⟨e, rfl, rfl⟩
    | ok result =>
      obtain ⟨terms, bound⟩ := result
      have hshown : ∀ item ∈ terms.filter (·.2 ≠ ""), item.2 ≠ "" :=
        fun item hitem => by simpa using (List.mem_filter.mp hitem).2
      have hconnected : ∀ lead, (Except.ok (connect lead terms, bound) : Except CompileError _) =
          .ok (connected lead (terms.filter (·.2 ≠ "")), bound) :=
        fun lead => by rw [connect_eq_connected]
      exact .inr ⟨terms, bound, rfl, hconnected "", hconnected "HAVING ",
        (connected_eq_empty_iff hshown).trans (connected_eq_empty_iff hshown).symm⟩
  · rw [nestedAll_eq, havingPart_eq]
  · have hwhere : wherePart t (table.map (Body.map (Query.nested t)) ::
        (nestedAll t cs).map (placed "where")) = _ := wherePart_placed t htable hseen _
    rw [← wherePart_eq, ← nestedAll_eq, ← hwhere]
    simp only [nestedAll, List.map_cons, List.map_map]
    rfl
  · rintro members rfl
    rw [memberTerms_eq_seenTerms, ← nestedAll_members, ← build_eq]

/-- Groups of orders of a high total or with few orders; between the two stand a condition of
another engine and a group without members. -/
def orderGroups : List (Clause Query) :=
  [⟨"having", wildcard, .condition (.test ⟨false, false⟩ (.compare "total" ">" (.value (.int 5))))⟩,
    ⟨"having", "mysql", .condition (.test ⟨false, false⟩ (.isNull "total"))⟩,
    ⟨"having", wildcard, .condition (.group ⟨false, false⟩ [])⟩,
    ⟨"having", wildcard, .condition (.test ⟨true, false⟩ (.compare "n" "<" (.value (.int 2))))⟩]

set_option maxRecDepth 20000 in
theorem orderGroups_flattened :
    Shared.havingPart ⟨.sqlite, {}⟩ (Query.nestedAll ⟨.sqlite, {}⟩ orderGroups) [.int 1] =
        .ok ("HAVING \"total\" > ? OR HAVING \"n\" < ?", [.int 1, .int 5, .int 2]) ∧
      Shared.build .sqlite (Query.nestedAll ⟨.sqlite, {}⟩ orderGroups) [.int 1] =
        .ok ("\"total\" > ? OR \"n\" < ?", [.int 1, .int 5, .int 2]) := by
  have hcs : ∀ c ∈ orderGroups, c.component = "having" := by simp [orderGroups]
  obtain ⟨halike, -, -, -⟩ := having_flattened ⟨.sqlite, {}⟩ hcs
  have hseen : Shared.seenTerms .sqlite (Query.nestedAll ⟨.sqlite, {}⟩ orderGroups) [.int 1] =
      .ok ([(false, "\"total\" > ?"), (false, ""), (true, "\"n\" < ?")],
        [.int 1, .int 5, .int 2]) := by rfl
  rcases halike [.int 1] with ⟨e, -, hbuild⟩ | ⟨terms, bound, hterms, hbuild, hhaving, -⟩
  · rw [Shared.build_eq, Writer.map_apply, hseen] at hbuild
    cases hbuild
  · obtain ⟨rfl, rfl⟩ := Prod.mk.inj (Except.ok.inj (hseen.symm.trans hterms))
    exact ⟨hhaving, hbuild⟩

end PolySql
