import PolySql.Proofs.Alike.PathJoin
import PolySql.Proofs.Sentence

/-!
Parts of selects over alike clauses. Main statements: a sentence of related parts is related, and
every part of a select is related at the cost of the component that it reads.
-/

namespace PolySql

open Text

namespace Lawful

variable {x : Exchange} {p : Content} {t : Target} {sql : ℕ → Fragment → Fragment → Prop}
  (law : Lawful x p t sql) {n : ℕ}

include law

theorem spaced {fs gs : List Fragment} (started : Bool) (h : Along sql n fs gs) :
    sql n (Fragment.spaced started fs) (Fragment.spaced started gs) := by
  induction h generalizing started with
  | nil => exact law.empty
  | @cons m k n f g fs gs head tail le ih =>
    have hspace : Over p.letter (if started then " " else "") := by
      cases started <;> exact law.word (by decide)
    unfold Fragment.spaced
    apply law.ite_blank head
    · exact law.mono (law.append head (ih started)) le
    · exact law.mono (law.append (law.before hspace head) (ih true)) le

theorem sentence {fs gs : List Fragment} (h : Along sql n fs gs) :
    sql n (.sentence fs) (.sentence gs) := by
  -- A sentence drops blank parts before it joins the others, so no induction reaches it directly.
  rw [Fragment.sentence_eq, Fragment.sentence_eq]
  exact law.spaced false (h.map fun _ _ _ _ h => law.strip h)

section Paging

theorem counts {a b : Option Int} (h : Option.Rel (fun i j => x.value (.int i) (.int j)) a b)
    (hw : ∀ i ∈ a, p.value (.int i)) :
    Option.Rel (fun i j => sql 0 (t.dialect.bindCount i) (t.dialect.bindCount j)) a b := by
  cases h with
  | none => exact .none
  | some h => exact .some (law.value h (hw _ rfl))

theorem top {a b : Window} (h : a.Alike x b) (hw : a.Within p) :
    Option.Rel (sql 0) (t.dialect.top a) (t.dialect.top b) := by
  have htake := law.counts h.take hw.1
  have hskip := law.counts h.skip hw.2
  unfold Dialect.top
  generalize a.take? = i, b.take? = j, a.skip? = k, b.skip? = l at htake hskip ⊢
  cases t.dialect.flavor with
  | sqlServer =>
    cases htake with
    | none => exact .none
    | some htake =>
      -- TOP has no offset: a window that also skips rows is written behind ORDER BY instead.
      cases hskip with
      | some hskip => exact .none
      | none =>
        have htop := law.before (law.word (s := "TOP (") (by decide)) htake
        exact .some (law.after htop (law.word (by decide)))
  | _ => exact .none

theorem limit {a b : Window} (h : a.Alike x b) (hw : a.Within p) :
    Option.Rel (sql 0) (t.dialect.limit a) (t.dialect.limit b) := by
  have htake := law.counts h.take hw.1
  have hskip := law.counts h.skip hw.2
  have hlimit : ∀ {f f' : Fragment}, sql 0 f f' →
      Option.Rel (sql 0) (some ("LIMIT " ++ f)) (some ("LIMIT " ++ f')) :=
    fun h => .some (law.before (law.word (by decide)) h)
  unfold Dialect.limit
  generalize a.take? = i, b.take? = j, a.skip? = k, b.skip? = l at htake hskip ⊢
  cases t.dialect.flavor <;> cases htake <;> cases hskip <;>
    first
    | exact .none
    | exact hlimit ‹_›
    | exact .some (law.written (law.word (by decide)))

theorem offset {a b : Window} (h : a.Alike x b) (hw : a.Within p) :
    Option.Rel (sql 0) (t.dialect.offset a) (t.dialect.offset b) := by
  have htake := law.counts h.take hw.1
  have hskip := law.counts h.skip hw.2
  unfold Dialect.offset
  generalize a.take? = i, b.take? = j, a.skip? = k, b.skip? = l at htake hskip ⊢
  cases hskip with
  | none => cases t.dialect.flavor <;> exact .none
  | some hskip =>
    have hoffset := law.before (law.word (s := "OFFSET ") (by decide)) hskip
    cases t.dialect.flavor with
    | sqlServer =>
      cases htake with
      | none => exact .some (law.after hoffset (law.word (by decide)))
      | some htake =>
        have hrows := law.after hoffset (law.word (s := " ROWS FETCH NEXT ") (by decide))
        exact .some (law.after (law.append hrows htake) (law.word (by decide)))
    | _ => exact .some hoffset

/-- What is written for a window, if there is one. -/
theorem windowPart {f : Window → Option Fragment} {a b : Option Window}
    (hf : ∀ {a b : Window}, a.Alike x b → a.Within p → Option.Rel (sql 0) (f a) (f b))
    (h : Option.Rel (fun a b => a.Alike x b ∧ a.Within p) a b) :
    sql 0 ((a.bind f).getD ∅) ((b.bind f).getD ∅) := by
  cases h with
  | none => exact law.empty
  | @some a b h =>
    have hpart := hf h.1 h.2
    simp only [Option.bind_some]
    generalize f a = i, f b = j at hpart ⊢
    cases hpart with
    | none => exact law.empty
    | some hpart => exact hpart

theorem topPart {a b : Option Window} (h : Option.Rel (fun a b => a.Alike x b ∧ a.Within p) a b) :
    sql 0 (Sql.topPart t a) (Sql.topPart t b) := by
  cases h with
  | none => exact law.empty
  | @some a b h =>
    have htop := law.top h.1 h.2
    simp only [Sql.topPart, Option.bind_some]
    generalize t.dialect.top a = f, t.dialect.top b = f' at htop ⊢
    cases htop with
    | none => exact law.empty
    | some htop => exact law.after htop (law.word (by decide))

end Paging

theorem distinct (isDistinct : Bool) :
    Over p.letter (if isDistinct then "DISTINCT " else "") := by
  cases isDistinct <;> exact law.word (by decide)

section Parts

variable {w : String → ℕ} {cs cs' : List (Clause SubSelect)}
  (h : Along (Clause.Seen x p t sql) w cs cs')

include h

omit law in
theorem windowOf :
    Agree (Option.Rel fun a b => a.Alike x b ∧ a.Within p) (Sql.windowOf t cs)
      (Sql.windowOf t cs') := by
  have hitem := effectiveItem_alike (visible_alike h "limit")
  unfold Sql.windowOf
  generalize effectiveItem cs "limit" t.engine = a, effectiveItem cs' "limit" t.engine = b
    at hitem ⊢
  cases hitem with
  | none => exact .ok .none
  | some hfits =>
    obtain ⟨m, -, halike, hw⟩ := hfits
    have hkind := halike.kind_eq
    cases halike with
    | window halike => exact .ok (.some ⟨halike, hw⟩)
    | _ => exact .of_error (congrArg (CompileError.unrecognized · .limit) hkind)

omit law in
theorem lockOf : Agree (· = ·) (Sql.lockOf t cs) (Sql.lockOf t cs') := by
  have hitem := effectiveItem_alike (visible_alike h "lock")
  unfold Sql.lockOf
  generalize effectiveItem cs "lock" t.engine = a, effectiveItem cs' "lock" t.engine = b
    at hitem ⊢
  cases hitem with
  | none => exact .ok rfl
  | some hfits =>
    obtain ⟨m, -, halike, -⟩ := hfits
    have hkind := halike.kind_eq
    cases halike with
    | lock => exact .ok rfl
    | _ => exact .of_error (congrArg (CompileError.unrecognized · .lock) hkind)

omit law in
/-- What is written for each visible clause of a component. -/
theorem each {f : Body SubSelect → Except CompileError Fragment}
    (hf : ∀ {m b b'}, b.Fits x p sql m b' → Agree (sql m) (f b) (f b')) (component : String) :
    Agree (Along sql (w component))
      ((visible cs component t.engine).mapM fun c => f c.item)
      ((visible cs' component t.engine).mapM fun c => f c.item) :=
  (visible_alike h component).mapM fun _ _ _ hc => hf hc.item

theorem columns (component : String) :
    Agree (sql (w component)) (Sql.columns t.dialect (visible cs component t.engine))
      (Sql.columns t.dialect (visible cs' component t.engine)) :=
  (each h law.column component).map fun _ _ hfs => law.separated (law.word (by decide)) hfs

theorem terms (component : String) :
    Agree (Along (Sql.Term.Alike sql) (w component))
      ((visible cs component t.engine).mapM (Sql.clauseTerm t.dialect))
      ((visible cs' component t.engine).mapM (Sql.clauseTerm t.dialect)) := by
  apply (visible_alike h component).mapM
  intro m c c' hc
  cases hc with
  | mk hfits => exact law.clauseTerm (.mk hfits.alike) hfits.within

theorem aggregatePart {win win' : Option Window} (isDistinct : Bool)
    (hw : Option.Rel (fun a b => a.Alike x b ∧ a.Within p) win win') :
    Agree (sql 0) (Sql.aggregatePart t win isDistinct cs)
      (Sql.aggregatePart t win' isDistinct cs') := by
  have hitem := effectiveItem_alike (visible_alike h "aggregate")
  have htop := law.topPart hw
  unfold Sql.aggregatePart
  generalize effectiveItem cs "aggregate" t.engine = a,
    effectiveItem cs' "aggregate" t.engine = b at hitem ⊢
  cases hitem with
  | none => exact .ok law.empty
  | some hfits =>
    obtain ⟨m, -, halike, hwithin⟩ := hfits
    have hkind := halike.kind_eq
    cases halike with
    | @aggregate a =>
      obtain ⟨hfunction, hcolumns, haliasName⟩ := hwithin
      have hnames : ∀ s ∈ (if a.columns.isEmpty then ["*"] else a.columns), Over p.letter s := by
        split
        · simpa using law.word (s := "*") (by decide)
        · exact hcolumns
      have hlist := law.alphabet.identifiers hnames
      have hname : Over p.letter ((a.aliasName.filter (· ≠ "")).getD t.options.aggregateAlias) := by
        cases hs : a.aliasName.filter (· ≠ "") with
        | none => exact law.aggregateAlias
        | some s => exact haliasName s (Option.filter_eq_some_iff.mp hs).1
      have hselect := law.before (law.word (s := "SELECT ") (by decide)) htop
      have hcall := law.after hselect (law.alphabet.upperText hfunction)
      have hopen := law.after hcall (law.word (s := "(") (by decide))
      have hdistinct := fun b => law.after (law.after hopen (law.distinct b)) hlist
      have hclose := fun b => law.after (hdistinct b) (law.word (s := ") AS ") (by decide))
      exact .ok (law.after (hclose _) (law.alphabet.quote hname))
    | _ => exact .of_error (congrArg (CompileError.unrecognized · .aggregate) hkind)

theorem columnsPart {win win' : Option Window} (isDistinct : Bool)
    (hw : Option.Rel (fun a b => a.Alike x b ∧ a.Within p) win win') :
    Agree (sql (w "select")) (Sql.columnsPart t win isDistinct cs)
      (Sql.columnsPart t win' isDistinct cs') := by
  have htop := law.topPart hw
  have hcolumns := law.columns h "select"
  unfold Sql.columnsPart
  rw [← anyVisible_alike (visible_alike h "aggregate"),
    ← anyVisible_alike (visible_alike h "select")]
  split
  · exact .ok law.empty
  · refine hcolumns.bind fun list list' hlist => .pure ?_
    have hstar : sql (w "select") (if list.text = "" then list ++ "*" else list)
        (if list'.text = "" then list' ++ "*" else list') :=
      law.ite_blank hlist (law.after hlist (law.word (by decide))) hlist
    have hselect : Over p.letter ("SELECT " ++ if isDistinct then "DISTINCT " else "") :=
      (over_append _ _).mpr ⟨law.word (by decide), law.distinct isDistinct⟩
    exact law.mono (law.append (law.before hselect htop) hstar) (Nat.zero_add _).le

theorem fromPart : Agree (sql (w "from")) (Sql.fromPart t cs) (Sql.fromPart t cs') := by
  have hitem := effectiveItem_alike (visible_alike h "from")
  unfold Sql.fromPart
  generalize effectiveItem cs "from" t.engine = a, effectiveItem cs' "from" t.engine = b
    at hitem ⊢
  cases hitem with
  | none => exact .ok law.empty
  | some hfits =>
    obtain ⟨m, hm, hfits⟩ := hfits
    refine (law.tableOf hfits).bind fun f f' hf => .pure ?_
    exact law.mono (law.before (law.word (by decide)) hf) hm

theorem joinPart : Agree (sql (w "join")) (Sql.joinPart t cs) (Sql.joinPart t cs') :=
  (each h law.join "join").map fun _ _ hfs => law.separated (law.word (by decide)) hfs

theorem wherePart : Agree (sql (w "where")) (Sql.wherePart t cs) (Sql.wherePart t cs') := by
  unfold Sql.wherePart
  rw [← anyVisible_alike (visible_alike h "from")]
  split
  · refine (law.terms h "where").bind fun terms terms' hterms => .pure ?_
    have hsql := law.connect (s := "") over_empty hterms
    exact law.ite_blank hsql hsql (law.before (law.word (by decide)) hsql)
  · exact .ok law.empty

theorem groupPart : Agree (sql (w "group")) (Sql.groupPart t cs) (Sql.groupPart t cs') := by
  rw [Sql.groupPart_eq_ite, Sql.groupPart_eq_ite, ← anyVisible_alike (visible_alike h "group")]
  split
  · refine (law.columns h "group").bind fun f f' hf => .pure ?_
    exact law.before (law.word (by decide)) hf
  · exact .ok law.empty

theorem havingPart : Agree (sql (w "having")) (Sql.havingPart t cs) (Sql.havingPart t cs') :=
  (law.terms h "having").map fun _ _ hterms => law.connect (law.word (by decide)) hterms

theorem orderPart : Agree (sql (w "order")) (Sql.orderPart t cs) (Sql.orderPart t cs') := by
  rw [Sql.orderPart_eq_ite, Sql.orderPart_eq_ite, ← anyVisible_alike (visible_alike h "order")]
  split
  · refine (each h law.orderItem "order").bind fun fs fs' hfs => .pure ?_
    exact law.before (law.word (by decide)) (law.separated (law.word (by decide)) hfs)
  · exact .ok law.empty

theorem unionPart : Agree (sql (w "union")) (Sql.unionPart t cs) (Sql.unionPart t cs') :=
  (each h law.union "union").map fun _ _ hfs => law.separated (law.word (by decide)) hfs

end Parts

end Lawful

end PolySql
