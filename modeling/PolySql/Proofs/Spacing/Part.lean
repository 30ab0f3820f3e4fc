import PolySql.Proofs.Columns
import PolySql.Proofs.Spacing.Clause

/-!
Parts of selects with single spaces. Main statements: every part of a select is written neatly, or
left out (`IsTidy`), and the columns or the aggregate stand behind SELECT (`IsSelect`).
-/

namespace PolySql

open Text Fragment

section Rows

variable {ε α : Type} {f : α → Except ε Fragment} {as : List α} {s : String}

theorem yields_separated (hs : SingleSpaced s.toList) (hne : as ≠ [])
    (h : ∀ a ∈ as, Yields Fragment.IsNeat (f a)) :
    Yields (fun fs => (Fragment.separated s fs).IsNeat) (as.mapM f) := by
  intro fs hfs
  refine .separated hs ?_ (Yields.mapM h fs hfs)
  rintro rfl
  exact hne (List.forall₂_nil_right_iff.mp (mapM_eq_ok_iff.mp hfs))

theorem yields_separated_tidy (hs : SingleSpaced s.toList)
    (h : ∀ a ∈ as, Yields Fragment.IsNeat (f a)) :
    Yields IsTidy (Fragment.separated s <$> as.mapM f) := by
  cases as with
  | nil => exact .of_ok (.inl rfl)
  | cons a as => exact (yields_separated hs (List.cons_ne_nil a as) h).map fun _ hfs => hfs.tidy

end Rows

section Paging

variable {d : Dialect} (hd : d.IsNeat) {w : Window} {f : Fragment}

include hd

theorem isNeat_top (hf : d.top w = some f) : f.IsNeat := by
  unfold Dialect.top at hf
  split at hf
  · obtain rfl := Option.some.inj hf
    exact (hd.bind _).enclosed (by decide) (by decide)
  · cases hf

theorem isNeat_limit (hf : d.limit w = some f) : f.IsNeat := by
  unfold Dialect.limit at hf
  split at hf
  · cases hf
  · obtain rfl := Option.some.inj hf
    exact isNeat_coe.mpr (by decide)
  · obtain rfl := Option.some.inj hf
    exact isNeat_coe.mpr (by decide)
  · obtain rfl := Option.some.inj hf
    exact (hd.bind _).before (by decide)
  · cases hf

theorem isNeat_offset (hf : d.offset w = some f) : f.IsNeat := by
  have hskip : ∀ n, ("OFFSET " ++ d.bindCount n : Fragment).IsNeat :=
    fun _ => (hd.bind _).before (by decide)
  unfold Dialect.offset at hf
  split at hf
  · cases hf
  · obtain rfl := Option.some.inj hf
    exact ((hskip _).between (hd.bind _) (by decide)).after (by decide)
  · obtain rfl := Option.some.inj hf
    exact (hskip _).after (by decide)
  · obtain rfl := Option.some.inj hf
    exact hskip _

omit hd

/-- What is written for a window, if anything is. -/
theorem isTidy_window {g : Window → Option Fragment} (hg : ∀ {w f}, g w = some f → f.IsNeat)
    (window : Option Window) : ((window.bind g).getD ∅).IsTidy := by
  cases hf : window.bind g with
  | none => exact .inl rfl
  | some f =>
    obtain ⟨w, -, hw⟩ := Option.bind_eq_some_iff.mp hf
    exact (hg hw).tidy

theorem neat_lock {mode : LockMode} {s : String} (hs : d.lock mode = some s) : Neat s := by
  unfold Dialect.lock at hs
  split at hs <;> cases hs <;> decide

theorem isTidy_lock (mode : Option LockMode) :
    (((mode.bind d.lock).getD "" : String) : Fragment).IsTidy := by
  cases hs : mode.bind d.lock with
  | none => exact .inl rfl
  | some s =>
    obtain ⟨m, -, hm⟩ := Option.bind_eq_some_iff.mp hs
    exact .inr (isNeat_coe.mpr (neat_lock hm))

end Paging

/-- A neat fragment behind SELECT. -/
structure Fragment.IsSelect (f : Fragment) : Prop where
  neat : f.IsNeat
  opening : ∃ rest : Fragment, f = "SELECT " ++ rest

theorem Fragment.IsNeat.select {f : Fragment} (hf : f.IsNeat) :
    ("SELECT " ++ f : Fragment).IsSelect :=
  ⟨hf.before (by decide), f, rfl⟩

section Parts

variable {t : Target} (hd : t.dialect.IsNeat) {cs : List (Clause SubSelect)}

/-- TOP, where it is written, stands in front with a space behind it. -/
theorem Fragment.IsNeat.behindTop {f : Fragment} (hf : f.IsNeat) (window : Option Window)
    (hd : t.dialect.IsNeat) : (Sql.topPart t window ++ f).IsNeat := by
  unfold Sql.topPart
  split
  · rwa [Fragment.empty_append]
  · next top htop =>
    obtain ⟨w, -, hw⟩ := Option.bind_eq_some_iff.mp htop
    exact (isNeat_top hd hw).between hf (by decide)

variable (h : ∀ c ∈ cs, c.item.IsNeat)

include h

theorem isNeat_effectiveItem {component : String} {b : Body SubSelect}
    (hb : effectiveItem cs component t.engine = some b) : b.IsNeat := by
  obtain ⟨c, hc, rfl⟩ := exists_of_effectiveItem _ _ _ hb
  exact h c (List.mem_of_mem_filter hc)

include hd

theorem yields_aggregatePart (ho : t.options.IsNeat) (window : Option Window) (isDistinct : Bool)
    (hseen : visible cs "aggregate" t.engine ≠ []) :
    Yields Fragment.IsSelect (Sql.aggregatePart t window isDistinct cs) := by
  unfold Sql.aggregatePart
  split
  · next hnone => exact absurd ((effectiveItem_eq_none_iff _ _ _).mp hnone) hseen
  · next a ha =>
    have hwords := (isNeat_effectiveItem h ha).wordings
    simp only [Body.wordings, Aggregate.wordings, List.forall_mem_cons, List.cons_append,
      List.forall_mem_append, Wording.forall_mem_names] at hwords
    obtain ⟨hfunction, hcolumns, halias⟩ := hwords
    have hnames : ∀ s ∈ (if a.columns.isEmpty then ["*"] else a.columns),
        SingleSpaced s.toList := by
      split
      · exact List.forall_mem_singleton.mpr (by decide)
      · exact hcolumns
    have hne : (if a.columns.isEmpty then ["*"] else a.columns) ≠ [] := by
      split
      · exact List.cons_ne_nil _ _
      · next hsome => exact mt List.isEmpty_iff.mpr hsome
    have haliasName : SingleSpaced
        ((a.aliasName.filter (· ≠ "")).getD t.options.aggregateAlias).toList := by
      cases hname : a.aliasName.filter (· ≠ "") with
      | none => exact ho.aggregateAlias.spaced
      | some s => exact halias s (Option.mem_toList.mpr (Option.filter_eq_some_iff.mp hname).1)
    have hlist := isNeat_coe.mpr (hd.neat_identifiers hne hnames)
    have hcall := fun b => (isNeat_coe.mpr hfunction.upper).between (s := "(")
      (hlist.behind b (s := "DISTINCT ") (by decide)) (by decide)
    have hnamed := fun b => (hcall b).between (s := ") AS ") (hd.quote haliasName) (by decide)
    refine .of_ok ?_
    simpa only [append_assoc] using ((hnamed _).behindTop window hd).select
  · exact .of_error _

theorem yields_columns {component : String} (hne : visible cs component t.engine ≠ []) :
    Yields Fragment.IsNeat (Sql.columns t.dialect (visible cs component t.engine)) :=
  (yields_separated (by decide) hne fun c hc =>
    hd.column (h c (List.mem_of_mem_filter hc))).map fun _ hfs => hfs

theorem yields_columnsPart (window : Option Window) (isDistinct : Bool)
    (hnone : visible cs "aggregate" t.engine = []) (hseen : anyVisible cs "select" t.engine) :
    Yields Fragment.IsSelect (Sql.columnsPart t window isDistinct cs) := by
  rw [Sql.columnsPart_of_columns hnone hseen]
  refine (yields_columns hd h ((anyVisible_iff _ _ _).mp hseen)).bind fun list hlist => .pure ?_
  have hstar : ¬ list.text = "" := hlist.toSolid.nonempty
  simp only [if_neg hstar]
  have hcolumns := (hlist.behindTop window hd).behind isDistinct (s := "DISTINCT ")
    (by decide)
  simpa only [append_assoc] using hcolumns.select

theorem yields_fromPart : Yields IsTidy (Sql.fromPart t cs) := by
  unfold Sql.fromPart
  split
  · exact .of_ok (.inl rfl)
  · next b hb =>
    refine (hd.tableOf (isNeat_effectiveItem h hb)).bind fun f hf => .pure ?_
    exact (hf.before (by decide)).tidy

theorem yields_joinPart : Yields IsTidy (Sql.joinPart t cs) :=
  yields_separated_tidy (by decide) fun c hc => hd.join (h c (List.mem_of_mem_filter hc))

theorem yields_terms (component : String) :
    Yields (∀ term ∈ ·, term.sql.IsTidy)
      ((visible cs component t.engine).mapM (Sql.clauseTerm t.dialect)) :=
  .mapM fun c hc => hd.clauseTerm (h c (List.mem_of_mem_filter hc))

theorem yields_wherePart : Yields IsTidy (Sql.wherePart t cs) := by
  unfold Sql.wherePart
  split
  · refine (yields_terms hd h "where").bind fun terms hterms => .pure ?_
    have hsql := isLead_empty.connect hterms
    split
    · exact hsql
    · next hwritten => exact ((hsql.resolve_left hwritten).before (by decide)).tidy
  · exact .of_ok (.inl rfl)

theorem yields_groupPart : Yields IsTidy (Sql.groupPart t cs) := by
  rw [Sql.groupPart_eq_ite]
  split
  · next hseen =>
    refine (yields_columns hd h ((anyVisible_iff _ _ _).mp hseen)).bind fun list hlist => .pure ?_
    exact (hlist.before (by decide)).tidy
  · exact .of_ok (.inl rfl)

theorem yields_havingPart : Yields IsTidy (Sql.havingPart t cs) :=
  (yields_terms hd h "having").map fun _ hterms =>
    IsLead.connect (.inr (by decide)) hterms

theorem yields_orderPart : Yields IsTidy (Sql.orderPart t cs) := by
  rw [Sql.orderPart_eq_ite]
  split
  · next hseen =>
    have hlist := yields_separated (s := ", ") (by decide) ((anyVisible_iff _ _ _).mp hseen)
      fun c hc => yields_orderItem hd (h c (List.mem_of_mem_filter hc))
    exact hlist.bind fun items hitems => .pure (hitems.before (by decide)).tidy
  · exact .of_ok (.inl rfl)

theorem yields_unionPart : Yields IsTidy (Sql.unionPart t cs) :=
  yields_separated_tidy (by decide) fun c hc => yields_union hd (h c (List.mem_of_mem_filter hc))

end Parts

end PolySql
