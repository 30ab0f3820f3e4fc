import PolySql.Proofs.Columns
import PolySql.Proofs.Composed.Clause

/-!
Parts of plain statements. Main statement: every part of a select over plain clauses is written as
composed SQL, or refused.
-/

namespace PolySql

open Text Fragment

namespace Composing

section Paging

variable {d : Dialect} {p : Char → Prop} (law : Composing d p) (w : Window)

include law

theorem count {s : String} (h : s.toList.all isKeywordChar) (n : Int) :
    (s ++ d.bindCount n).IsComposed d p :=
  (IsComposed.bind _).before (law.word h)

theorem top : ∀ f ∈ d.top w, f.IsComposed d p := by
  intro f hf
  unfold Dialect.top at hf
  split at hf
  · obtain rfl := Option.some.inj hf
    exact (law.count (by decide) _).after (law.word (by decide))
  · cases hf

theorem limit : ∀ f ∈ d.limit w, f.IsComposed d p := by
  intro f hf
  unfold Dialect.limit at hf
  split at hf
  · cases hf
  · obtain rfl := Option.some.inj hf
    exact law.written (by decide)
  · obtain rfl := Option.some.inj hf
    exact law.written (by decide)
  · obtain rfl := Option.some.inj hf
    exact law.count (by decide) _
  · cases hf

theorem offset : ∀ f ∈ d.offset w, f.IsComposed d p := by
  intro f hf
  unfold Dialect.offset at hf
  split at hf
  · cases hf
  · obtain rfl := Option.some.inj hf
    have hrows := fun n => (law.count (s := "OFFSET ") (by decide) n).after
      (law.word (s := " ROWS FETCH NEXT ") (by decide))
    exact ((hrows _).append (.bind _)).after (law.word (by decide))
  · obtain rfl := Option.some.inj hf
    exact (law.count (by decide) _).after (law.word (by decide))
  · obtain rfl := Option.some.inj hf
    exact law.count (by decide) _

omit law in
/-- What is written for a window, if there is one. -/
theorem windowPart {g : Window → Option Fragment} (hg : ∀ w, ∀ f ∈ g w, f.IsComposed d p)
    (window : Option Window) : ((window.bind g).getD ∅).IsComposed d p := by
  cases hf : window.bind g with
  | none => exact .empty
  | some f =>
    obtain ⟨w, -, hw⟩ := Option.bind_eq_some_iff.mp hf
    exact hg w f hw

end Paging

variable {t : Target} {p : Char → Prop} (law : Composing t.dialect p)

include law

theorem topPart (window : Option Window) : (Sql.topPart t window).IsComposed t.dialect p := by
  unfold Sql.topPart
  split
  · exact .empty
  · next f hf =>
    obtain ⟨w, -, hw⟩ := Option.bind_eq_some_iff.mp hf
    exact (law.top w f hw).after (law.word (by decide))

section Parts

variable {cs : List (Clause SubSelect)} (h : ∀ c ∈ cs, c.item.Composes t.dialect p)

include h

omit law in
theorem of_effectiveItem {component : String} {b : Body SubSelect}
    (hb : effectiveItem cs component t.engine = some b) : b.Composes t.dialect p := by
  obtain ⟨c, hc, rfl⟩ := exists_of_effectiveItem _ _ _ hb
  exact h c (List.mem_of_mem_filter hc)

omit law in
/-- What is written for each visible clause of a component. -/
theorem each {f : Body SubSelect → Except CompileError Fragment}
    (hf : ∀ {b}, b.Composes t.dialect p → Yields (·.IsComposed t.dialect p) (f b))
    (component : String) :
    Yields (∀ g ∈ ·, g.IsComposed t.dialect p)
      ((visible cs component t.engine).mapM fun c => f c.item) :=
  .mapM fun c hc => hf (h c (List.mem_of_mem_filter hc))

theorem columns (component : String) :
    Yields (·.IsComposed t.dialect p)
      (Sql.columns t.dialect (visible cs component t.engine)) :=
  (each h law.column component).map fun _ hfs => .separated (law.word (by decide)) hfs

theorem terms (component : String) :
    Yields (∀ term ∈ ·, term.sql.IsComposed t.dialect p)
      ((visible cs component t.engine).mapM (Sql.clauseTerm t.dialect)) := by
  apply Yields.mapM
  intro c hc
  have hfits := h c (List.mem_of_mem_filter hc)
  exact law.clauseTerm hfits.plain hfits.nested

theorem aggregatePart (window : Option Window) (isDistinct : Bool) :
    Yields (·.IsComposed t.dialect p) (Sql.aggregatePart t window isDistinct cs) := by
  unfold Sql.aggregatePart
  split
  · exact .of_ok .empty
  · next a ha =>
    obtain ⟨⟨hfunction, hcolumns⟩, -⟩ := of_effectiveItem h ha
    have hnames : ∀ s ∈ (if a.columns.isEmpty then ["*"] else a.columns), IsName s := by
      split
      · intro s hs
        rw [List.mem_singleton.mp hs]
        exact ⟨by decide, by decide⟩
      · exact hcolumns
    have hlist := law.identifiers hnames
    have hselect := (law.topPart window).before (law.word (s := "SELECT ") (by decide))
    have hcall := (hselect.after (law.alphabet.upperText hfunction)).after
      (law.word (s := "(") (by decide))
    have hdistinct := fun b => law.either b (s := "DISTINCT ") (u := "") (by decide) (by decide)
    have harguments := fun b => (hcall.after (hdistinct b)).append hlist
    exact .of_ok (((harguments _).after (law.word (by decide))).append (.name _))
  · exact .of_error _

theorem columnsPart (window : Option Window) (isDistinct : Bool) :
    Yields (·.IsComposed t.dialect p) (Sql.columnsPart t window isDistinct cs) := by
  unfold Sql.columnsPart
  split
  · exact .of_ok .empty
  · refine (law.columns h "select").bind fun list hlist => .pure ?_
    have hstar : (if list.text = "" then list ++ "*" else list).IsComposed t.dialect p :=
      .ite (fun _ => hlist.after (law.word (by decide))) fun _ => hlist
    have hdistinct := law.either isDistinct (s := "DISTINCT ") (u := "") (by decide) (by decide)
    have hselect := (law.written (s := "SELECT ") (by decide)).after hdistinct
    exact (hselect.append (law.topPart window)).append hstar

theorem fromPart : Yields (·.IsComposed t.dialect p) (Sql.fromPart t cs) := by
  unfold Sql.fromPart
  split
  · exact .of_ok .empty
  · next b hb =>
    refine (law.tableOf (of_effectiveItem h hb)).bind fun f hf => .pure ?_
    exact hf.before (law.word (by decide))

theorem joinPart : Yields (·.IsComposed t.dialect p) (Sql.joinPart t cs) :=
  (each h law.join "join").map fun _ hfs => .separated (law.word (by decide)) hfs

theorem wherePart : Yields (·.IsComposed t.dialect p) (Sql.wherePart t cs) := by
  unfold Sql.wherePart
  split
  · refine (law.terms h "where").bind fun terms hterms => .pure ?_
    have hsql : (Sql.connect "" terms).IsComposed t.dialect p := law.connect over_empty hterms
    exact .ite (fun _ => hsql) fun _ => hsql.before (law.word (by decide))
  · exact .of_ok .empty

theorem groupPart : Yields (·.IsComposed t.dialect p) (Sql.groupPart t cs) := by
  rw [Sql.groupPart_eq_ite]
  split
  · refine (law.columns h "group").bind fun list hlist => .pure ?_
    exact hlist.before (law.word (by decide))
  · exact .of_ok .empty

theorem havingPart : Yields (·.IsComposed t.dialect p) (Sql.havingPart t cs) :=
  (law.terms h "having").map fun _ hterms => law.connect (law.word (by decide)) hterms

theorem orderPart : Yields (·.IsComposed t.dialect p) (Sql.orderPart t cs) := by
  have hitems := each h (f := Sql.orderItem t) (fun hb => law.orderItem hb.plain) "order"
  rw [Sql.orderPart_eq_ite]
  split
  · refine hitems.bind fun items hitems => .pure ?_
    exact (IsComposed.separated (law.word (by decide)) hitems).before (law.word (by decide))
  · exact .of_ok .empty

theorem unionPart : Yields (·.IsComposed t.dialect p) (Sql.unionPart t cs) :=
  (each h law.union "union").map fun _ hfs => .separated (law.word (by decide)) hfs

end Parts

end Composing

end PolySql
