import Mathlib.Data.List.Nodup
import PolySql.Proofs.Alike.Part
import PolySql.Sql.Statement

/-!
Statements of alike queries. Main statement: alike queries compile to related fragments, or fail
with the same error.
-/

namespace PolySql

open Text

/-- The components that a select reads, once each. -/
def selectComponents : List String :=
  ["select", "from", "join", "where", "group", "having", "order", "union"]

def statementComponents : List String := "cte" :: "insert" :: "update" :: selectComponents

/-- What the components cost together. -/
def costOf (w : String → ℕ) : List String → ℕ
  | [] => 0
  | component :: rest => w component + costOf w rest

theorem costOf_zero (components : List String) : costOf (fun _ => 0) components = 0 := by
  induction components with
  | nil => rfl
  | cons component rest ih =>
    rw [costOf, ih]

theorem costOf_add (w w' : String → ℕ) (components : List String) :
    costOf (w + w') components = costOf w components + costOf w' components := by
  induction components with
  | nil => rfl
  | cons component rest ih =>
    simp only [costOf, ih, Pi.add_apply]
    omega

/-- The cost `m` of one component, and none of the others. -/
def chargedTo (own : String) (m : ℕ) (component : String) : ℕ := if component = own then m else 0

theorem costOf_chargedTo (own : String) (m : ℕ) {components : List String}
    (h : components.Nodup) :
    costOf (chargedTo own m) components = if own ∈ components then m else 0 := by
  induction components with
  | nil => rfl
  | cons component rest ih =>
    have hrest := ih h.of_cons
    rw [costOf, hrest, chargedTo]
    by_cases hown : component = own
    · have hlater : own ∉ rest := hown ▸ h.notMem
      rw [if_pos hown, if_neg hlater, if_pos (by rw [hown]; exact List.mem_cons_self), add_zero]
    · have hmem : own ∈ component :: rest ↔ own ∈ rest := by
        rw [List.mem_cons, or_iff_right (Ne.symm hown)]
      rw [if_neg hown, zero_add]
      simp only [hmem]

/-- What a block gives to its statement: each clause costs where its component is read. -/
theorem Block.Alike.seen {x : Exchange} {p : Content} {t : Target}
    {sql : ℕ → Fragment → Fragment → Prop} {n : ℕ} {b b' : Block SubSelect}
    (h : b.Alike x (SubSelect.Alike sql) n b') (hw : b.Within p) :
    ∃ w, Along (Clause.Seen x p t sql) w b.clauses b'.clauses ∧
      ∀ components : List String, components.Nodup → costOf w components ≤ n := by
  obtain ⟨hclauses, -, -, -⟩ := h
  simp only [Block.Within] at hw
  generalize b.clauses = cs, b'.clauses = cs' at hclauses hw
  -- Each clause adds what it costs to the component it stands under, and to no other.
  induction hclauses with
  | @nil n =>
    refine ⟨fun _ => 0, .nil, fun components _ => ?_⟩
    rw [costOf_zero]
    exact n.zero_le
  | @cons m k n c c' cs cs' head tail le ih =>
    obtain ⟨w, hw', hsum⟩ := ih fun c hc => hw c (List.mem_cons_of_mem _ hc)
    have hhead : Clause.Seen x p t sql (chargedTo c.component m) c c' := by
      cases head with
      | mk hb =>
        refine ⟨rfl, rfl, fun _ => ⟨?_, hw _ List.mem_cons_self⟩⟩
        simpa only [chargedTo, if_true] using hb
    refine ⟨chargedTo c.component m + w, .cons hhead hw' le_rfl, fun components hnodup => ?_⟩
    have hown : costOf (chargedTo c.component m) components ≤ m := by
      rw [costOf_chargedTo c.component m hnodup]
      split <;> omega
    have hrest := hsum components hnodup
    rw [costOf_add]
    omega

namespace Lawful

variable {x : Exchange} {p : Content} {t : Target} {sql : ℕ → Fragment → Fragment → Prop}
  (law : Lawful x p t sql) {n : ℕ} {w : String → ℕ} {cs cs' : List (Clause SubSelect)}
  (h : Along (Clause.Seen x p t sql) w cs cs')

include law h

/-- The column that stands for all columns has no cost. -/
theorem withColumns :
    Along (Clause.Seen x p t sql) w
      (if anyVisible cs "select" t.engine then cs else cs ++ [Sql.allColumns])
      (if anyVisible cs' "select" t.engine then cs' else cs' ++ [Sql.allColumns]) := by
  rw [← anyVisible_alike (visible_alike h "select")]
  split
  · exact h
  · have hstar : Clause.Seen x p t sql 0 Sql.allColumns Sql.allColumns :=
      ⟨rfl, rfl, fun _ => ⟨.column .named, law.word (by decide)⟩⟩
    have hone : Along (Clause.Seen x p t sql) 0 [Sql.allColumns] [Sql.allColumns] :=
      .cons hstar .nil (zero_add (0 : String → ℕ)).le
    exact (h.append hone).mono (add_zero w).le

theorem selectExpanded (isDistinct : Bool) (hn : costOf w selectComponents ≤ n) :
    Agree (sql n) (Sql.selectExpanded t isDistinct cs) (Sql.selectExpanded t isDistinct cs') := by
  have hcs := law.withColumns h
  simp only [Sql.selectExpanded]
  generalize (if anyVisible cs "select" t.engine then cs else cs ++ [Sql.allColumns]) = ds,
    (if anyVisible cs' "select" t.engine then cs' else cs' ++ [Sql.allColumns]) = ds' at hcs ⊢
  refine (windowOf hcs).bind fun win win' hwin => ?_
  refine (lockOf hcs).bind fun mode mode' hmode => ?_
  have hparts :
      Along (fun m => Agree (sql m)) _ [_, _, _, _, _, _, _, _] [_, _, _, _, _, _, _, _] :=
    .cons (law.aggregatePart hcs isDistinct hwin) (.cons (law.columnsPart hcs isDistinct hwin)
      (.cons (law.fromPart hcs) (.cons (law.joinPart hcs) (.cons (law.wherePart hcs)
        (.cons (law.groupPart hcs) (.cons (law.havingPart hcs) (.cons (law.orderPart hcs)
          (.nil (k := 0)) le_rfl) le_rfl) le_rfl) le_rfl) le_rfl) le_rfl) le_rfl) le_rfl
  refine (hparts.mapM fun _ _ _ h => h).bind fun parts parts' hparts => ?_
  refine (law.unionPart hcs).bind fun unions unions' hunions => .pure ?_
  subst hmode
  have hpaging : Along sql 0 [_, _] [_, _] :=
    .cons (law.windowPart law.limit hwin) (.cons (law.windowPart law.offset hwin)
      (.nil (k := 0)) (add_zero 0).le) (add_zero 0).le
  have hlock : Along sql (w "union") [_, _] [_, _] :=
    .cons hunions (.cons (law.written (n := 0) (law.alphabet.lockText mode)) (.nil (k := 0))
      le_rfl) le_rfl
  -- An aggregate and the paging cost nothing; every other part has a component of its own.
  refine law.mono (law.sentence ((hparts.append hpaging).append hlock)) ?_
  simp only [selectComponents, costOf] at hn
  omega

theorem select (isDistinct : Bool) (hn : costOf w selectComponents ≤ n) :
    Agree (sql n) (Sql.select t isDistinct cs) (Sql.select t isDistinct cs') :=
  (law.expandPaths (fun _ => law.alphabet.singular) h).bind fun _ _ h =>
    law.selectExpanded h isDistinct hn

theorem changedTable (change : Change) :
    Agree (sql 0) (Sql.changedTable t change cs) (Sql.changedTable t change cs') := by
  have hitem := effectiveItem_alike (visible_alike h "from")
  unfold Sql.changedTable
  generalize effectiveItem cs "from" t.engine = a, effectiveItem cs' "from" t.engine = b
    at hitem ⊢
  cases hitem with
  | none => exact .error _
  | some hfits =>
    obtain ⟨m, -, halike, hw⟩ := hfits
    have hkind := halike.kind_eq
    cases halike with
    | table halike =>
      cases halike with
      | named => exact .ok (law.text (law.alphabet.identifier hw))
      | _ => exact .of_error (congrArg (CompileError.invalidTarget change) hkind)
    | _ => exact .of_error (congrArg (CompileError.invalidTarget change) hkind)

theorem insert (hn : w "insert" ≤ n) :
    Agree (sql n) (Sql.insert t cs) (Sql.insert t cs') := by
  have hitem := effectiveItem_alike (visible_alike h "insert")
  unfold Sql.insert
  refine (law.changedTable h .insert).bind fun target target' htarget => ?_
  have hinto := law.before (law.word (s := "INSERT INTO ") (by decide)) htarget
  generalize effectiveItem cs "insert" t.engine = a, effectiveItem cs' "insert" t.engine = b
    at hitem ⊢
  cases hitem with
  | none => exact .error _
  | some hfits =>
    obtain ⟨m, hm, halike, hw⟩ := hfits
    cases halike with
    | insert halike =>
      cases halike with
      | base => exact .error _
      | row hbounds =>
        have hopen := law.after hinto (law.word (s := " (") (by decide))
        have hcolumns := law.after hopen (law.alphabet.identifiers hw.1)
        have hvalues := law.after hcolumns (law.word (s := ") VALUES ") (by decide))
        have hsql := law.append hvalues (law.paren (law.bindAll hbounds hw.2))
        have hlength := hbounds.length_eq
        simp only [Sql.checkRow, ← hlength]
        split
        · exact .ok (law.mono hsql (by omega))
        · exact .error _
      | @rows columns q q' hquery =>
        have hlist : Over p.letter
            (if columns.isEmpty then "" else "(" ++ t.dialect.identifiers columns ++ ") ") := by
          split
          · exact over_empty
          · rw [over_append, over_append]
            exact ⟨⟨law.word (by decide), law.alphabet.identifiers hw⟩, law.word (by decide)⟩
        refine hquery.select.bind fun f f' hf => .pure ?_
        have hblank := law.after hinto (law.word (s := " ") (by decide))
        have hsql := law.append (law.after hblank hlist) hf
        exact law.mono hsql (by omega)
    | _ => exact .error _

theorem whereSuffix : Agree (sql (w "where")) (Sql.whereSuffix t cs) (Sql.whereSuffix t cs') := by
  unfold Sql.whereSuffix
  refine (law.wherePart h).bind fun f f' hf => .pure ?_
  exact law.ite_blank hf hf (law.before (law.word (by decide)) hf)

omit h in
theorem assignments {k : ℕ} {columns : List String} {bs bs' : List Bound}
    (hc : ∀ s ∈ columns, Over p.letter s) (hb : Along (Bound.Alike x) k bs bs')
    (hw : ∀ b ∈ bs, b.Within p) :
    sql k (Sql.assignments t columns bs) (Sql.assignments t columns bs') := by
  refine law.separated (law.word (by decide)) ?_
  induction hb generalizing columns with
  | nil => simpa using .nil
  | cons head tail le ih =>
    cases columns with
    | nil => exact .nil
    | cons column columns =>
      have hcolumn := law.alphabet.identifier (hc column List.mem_cons_self)
      have hhead := law.columnBefore (hc column List.mem_cons_self) (s := " = ") (by decide)
        (law.bound head (hw _ List.mem_cons_self))
      have htail := @ih columns (fun s hs => hc s (List.mem_cons_of_mem _ hs))
        fun b hb => hw b (List.mem_cons_of_mem _ hb)
      exact .cons hhead htail le

theorem update (hn : w "update" + w "where" ≤ n) :
    Agree (sql n) (Sql.update t cs) (Sql.update t cs') := by
  have hitem := effectiveItem_alike (visible_alike h "update")
  unfold Sql.update
  refine (law.changedTable h .update).bind fun target target' htarget => ?_
  have hset := law.after (law.before (law.word (s := "UPDATE ") (by decide)) htarget)
    (law.word (s := " SET ") (by decide))
  generalize effectiveItem cs "update" t.engine = a, effectiveItem cs' "update" t.engine = b
    at hitem ⊢
  cases hitem with
  | none => exact .error _
  | some hfits =>
    obtain ⟨m, hm, halike, hw⟩ := hfits
    cases halike with
    | insert halike =>
      cases halike with
      | row hbounds =>
        have hlength := hbounds.length_eq
        simp only [Sql.checkRow, ← hlength]
        split
        · refine (law.whereSuffix h).bind fun f f' hf => .pure ?_
          have hsql := law.append (law.append hset (law.assignments hw.1 hbounds hw.2)) hf
          exact law.mono hsql (by omega)
        · exact .error _
      | _ => exact .error _
    | _ => exact .error _

theorem delete (hn : w "where" ≤ n) : Agree (sql n) (Sql.delete t cs) (Sql.delete t cs') := by
  unfold Sql.delete
  refine (law.changedTable h .delete).bind fun target target' htarget => ?_
  refine (law.whereSuffix h).bind fun f f' hf => .pure ?_
  have hsql := law.append (law.before (law.word (s := "DELETE FROM ") (by decide)) htarget) hf
  exact law.mono hsql (by omega)

theorem withList :
    Agree (sql (w "cte")) (Sql.withList t.dialect cs) (Sql.withList t.dialect cs') := by
  rw [Sql.withList_eq_ite, Sql.withList_eq_ite, ← anyVisible_alike (visible_alike h "cte")]
  split
  · refine (each h law.cte "cte").bind fun fs fs' hfs => .pure ?_
    have hlist := law.separated (s := ", ") (law.word (by decide)) hfs
    exact law.after (law.before (law.word (by decide)) hlist) (law.word (by decide))
  · exact .ok law.empty

omit h in
/-- Alike blocks whose nested queries are compiled give alike selects. -/
theorem subSelect {b b' : Block SubSelect} (h : b.Alike x (SubSelect.Alike sql) n b')
    (hw : b.Within p) : SubSelect.Alike sql n (Sql.subSelect t b) (Sql.subSelect t b') := by
  obtain ⟨w, hclauses, hsum⟩ := h.seen hw
  refine ⟨h.aliasName, ?_⟩
  simp only [Sql.subSelect, ← h.isDistinct]
  exact law.select hclauses b.isDistinct (hsum selectComponents (by decide))

omit h in
theorem statement {b b' : Block SubSelect} (h : b.Alike x (SubSelect.Alike sql) n b')
    (hw : b.Within p) : Agree (sql n) (Sql.statement t b) (Sql.statement t b') := by
  obtain ⟨w, hclauses, hsum⟩ := h.seen hw
  have hn := hsum statementComponents (by decide)
  simp only [statementComponents, costOf] at hn
  have hwhere : w "where" ≤ costOf w selectComponents := by
    simp only [selectComponents, costOf]
    omega
  simp only [Sql.statement, ← h.method, ← h.isDistinct]
  refine (law.withList hclauses).bind fun ctes ctes' hctes => ?_
  have hbody : ∀ {y y' : Except CompileError Fragment}, Agree (sql (n - w "cte")) y y' →
      Agree (sql n) (y >>= fun f => pure (ctes ++ f)) (y' >>= fun f => pure (ctes' ++ f)) :=
    fun h => h.bind fun f f' hf => .pure (law.mono (law.append hctes hf) (by omega))
  split
  · exact hbody (law.insert hclauses (by omega))
  · exact hbody (law.update hclauses (by omega))
  · exact hbody (law.delete hclauses (by omega))
  · exact hbody (law.select hclauses b.isDistinct (by omega))

end Lawful

theorem Query.Within.block {p : Content} {q : Query} (h : q.Within p) (t : Target) :
    (q.block.map (Query.subSelect t)).Within p := by
  cases h with
  | ofBlock own nested =>
    refine (Block.within_map (fun q => ?_) _).mpr own
    rw [Query.subSelect_eq]
    rfl

section Compile

variable {x : Exchange} {p : Content} {t : Target} {sql : ℕ → Fragment → Fragment → Prop}
  (law : Lawful x p t sql) {n : ℕ} {q q' : Query}

include law

theorem Query.Alike.block (h : q.Alike x n q') (hw : q.Within p) :
    (q.block.map (Query.subSelect t)).Alike x (SubSelect.Alike sql) n
      (q'.block.map (Query.subSelect t)) := by
  induction h with
  | mk ρ hρ h ih =>
    cases hw with
    | ofBlock own nested =>
      apply h.map
      intro m q q' hq halike
      have hnested := nested q hq
      rw [Query.subSelect_eq, Query.subSelect_eq t q']
      exact law.subSelect (ih halike hnested) (hnested.block t)

/-- Alike queries compile to related fragments, or fail with the same error. -/
theorem Query.Alike.compile (h : q.Alike x n q') (hw : q.Within p) :
    Agree (sql n) (q.compile t) (q'.compile t) :=
  law.statement (h.block law hw) (hw.block t)

end Compile

end PolySql
