import PolySql.Proofs.Alike.Condition
import PolySql.Proofs.Spacing.Wording

/-!
Conditions with single spaces. Main statement: a condition whose texts fit is written neatly, or not
at all, if the queries nested in it are neat (`Dialect.IsNeat.condition`).
-/

namespace PolySql

open Text Fragment

section Pieces

variable {f left : Fragment}

theorem isNeat_paren (hf : f.IsNeat) : (Sql.paren f).IsNeat :=
  hf.enclosed (by decide) (by decide)

theorem isNeat_negated (isNot : Bool) (hf : f.IsNeat) : (Sql.negated isNot f).IsNeat :=
  .ite (fun _ => hf.enclosed (by decide) (by decide)) fun _ => hf

theorem isNeat_operatorBefore {operator : String} (hl : left.IsNeat) (ho : Neat operator)
    (hf : f.IsNeat) : (left ++ " " ++ operator ++ " " ++ f).IsNeat :=
  (hl.between (isNeat_coe.mpr ho) (by decide)).between hf (by decide)

end Pieces

section Terms

variable {lead : String} {terms : List Sql.Term} {f x : Fragment}

/-- A word that may stand in front of every term, or nothing. -/
def IsLead (lead : String) : Prop := lead = "" ∨ Opens lead

namespace IsLead

variable (hlead : IsLead lead)

include hlead

theorem before (hf : f.IsNeat) : (lead ++ f : Fragment).IsNeat := by
  rcases hlead with rfl | hs
  · exact hf.empty_append
  · exact hf.before hs

/-- A connector, with spaces of its own, is written only once something stands in front of it. -/
theorem append_connectFrom (hx : x.IsNeat) (h : ∀ term ∈ terms, term.sql.IsTidy) :
    (x ++ Sql.connectFrom lead true terms).IsNeat := by
  induction terms generalizing x with
  | nil => rwa [Sql.connectFrom, append_empty]
  | cons term rest ih =>
    rw [List.forall_mem_cons] at h
    simp only [Sql.connectFrom]
    split
    · next hempty =>
      rw [← append_assoc]
      exact ih (hx.append_blank hempty) h.2
    · next hwritten =>
      have hterm := hlead.before (h.1.resolve_left hwritten)
      have hconnected : (x ++ (if term.isOr then " OR " else " AND " : String) ++
          (lead ++ term.sql : Fragment)).IsNeat := hx.between hterm (by split <;> decide)
      simpa only [append_assoc, eq_self, if_true] using ih hconnected h.2

theorem connect (h : ∀ term ∈ terms, term.sql.IsTidy) : (Sql.connect lead terms).IsTidy := by
  unfold Sql.connect
  induction terms with
  | nil => exact .inl rfl
  | cons term rest ih =>
    rw [List.forall_mem_cons] at h
    simp only [Sql.connectFrom]
    split
    · next hempty => exact .blank_append hempty (ih h.2)
    · next hwritten =>
      have hterm := hlead.before (h.1.resolve_left hwritten)
      have hrow := hlead.append_connectFrom hterm.empty_append h.2
      simpa only [append_assoc, Bool.false_eq_true, if_false] using hrow.tidy

end IsLead

theorem isLead_empty : IsLead "" := .inl rfl

/-- A group is left out if all its members are. -/
theorem isTidy_group (isNot : Bool) (hf : f.IsTidy) : (Sql.group isNot f).IsTidy := by
  unfold Sql.group
  split
  · exact hf
  · next hwritten => exact ((isNeat_paren (hf.resolve_left hwritten)).behind isNot (by decide)).tidy

/-- Members that are written neatly, or not at all, are terms of this kind. -/
theorem yields_memberTerms {d : Dialect} {members : List (Scoped (Condition SubSelect))}
    (h : ∀ c ∈ members, Yields IsTidy (Sql.condition d c.item)) :
    Yields (∀ term ∈ ·, term.sql.IsTidy) (Sql.memberTerms d members) := by
  rw [memberTerms_eq_mapM]
  apply Yields.mapM
  intro c hc
  obtain ⟨m, hm, rfl⟩ := List.mem_map.mp hc
  refine (h m (List.mem_of_mem_filter hm)).bind fun f hf => .pure ?_
  rwa [hf.strip]

end Terms

namespace Dialect.IsNeat

variable {d : Dialect} (hd : d.IsNeat)

include hd

theorem bound {b : Bound} (h : ∀ w ∈ b.wordings, w.Fits) : (d.bound b).IsNeat :=
  (Bound.isNeat_iff.mpr h).fragment hd.placeholder

theorem verbatimText {sql : Verbatim} (h : ∀ w ∈ sql.wordings, w.Fits) :
    Yields Fragment.IsNeat (d.verbatim sql) := by
  rw [Verbatim.wordings, List.forall_mem_cons] at h
  exact hd.verbatim (Wording.fits_word.mp h.1) (forall_isNeat_iff.mpr h.2)

theorem pattern {column operator : String} (value : String) (caseSensitive : Bool)
    (hc : SingleSpaced column.toList) (ho : Neat operator) :
    (Sql.pattern d column operator value caseSensitive).IsNeat := by
  have hcolumn := hd.neat_identifier hc
  rw [Sql.pattern_eq]
  refine isNeat_operatorBefore (isNeat_coe.mpr ?_) ?_ (hd.bind _)
  · split
    · exact hcolumn
    · exact hcolumn.enclosed (by decide) (by decide)
  · split
    · decide
    · exact ho

theorem oneOf {column : String} {bs : List Bound} (isNot : Bool) (hc : SingleSpaced column.toList)
    (h : ∀ b ∈ bs, b.IsNeat) : (Sql.oneOf d isNot column bs).IsNeat := by
  refine .ite (fun _ => ?_) fun hsome => ?_
  · exact .ite (fun _ => isNeat_coe.mpr (by decide)) fun _ => isNeat_coe.mpr (by decide)
  · have hlist := isNeat_paren (hd.bindAll (by simpa using hsome) h)
    exact (hd.identifier hc).between hlist (by split <;> decide)

theorem test {c : Test SubSelect} (isNot : Bool) (h : ∀ w ∈ c.wordings, w.Fits)
    (hq : ∀ q ∈ c.nested, q.IsNeat) : Yields Fragment.IsNeat (Sql.test d isNot c) := by
  cases c with
  | base => exact .of_error _
  | verbatim sql => exact hd.verbatimText h
  | compare column operator value =>
    simp only [Test.wordings, List.forall_mem_cons] at h
    obtain ⟨hc, ho, hv⟩ := h
    exact .of_ok (isNeat_negated isNot (isNeat_operatorBefore (hd.identifier hc) ho (hd.bound hv)))
  | pattern column operator value caseSensitive =>
    simp only [Test.wordings, List.forall_mem_cons] at h
    obtain ⟨hc, ho, -⟩ := h
    exact .of_ok (isNeat_negated isNot (hd.pattern value caseSensitive hc ho))
  | datePart column part operator value =>
    simp only [Test.wordings, List.forall_mem_cons] at h
    obtain ⟨hc, hp, ho, hv⟩ := h
    have hpart := isNeat_coe.mpr (neat_datePart (d := d) hp (hd.neat_identifier hc))
    exact .of_ok (isNeat_negated isNot (isNeat_operatorBefore hpart ho (hd.bound hv)))
  | columns first operator second =>
    simp only [Test.wordings, List.forall_mem_cons] at h
    obtain ⟨hf, ho, hs, -⟩ := h
    exact .of_ok
      (isNeat_operatorBefore ((hd.identifier hf).behind isNot (by decide)) ho (hd.identifier hs))
  | subquery column operator query =>
    simp only [Test.wordings, List.forall_mem_cons] at h
    obtain ⟨hc, ho, -⟩ := h
    refine (hq query List.mem_cons_self).select.bind fun f hf => .pure ?_
    exact isNeat_negated isNot (isNeat_operatorBefore (hd.identifier hc) ho (isNeat_paren hf))
  | oneOf column values =>
    simp only [Test.wordings, List.forall_mem_cons] at h
    exact .of_ok (hd.oneOf isNot h.1 (forall_isNeat_iff.mpr h.2))
  | oneOfQuery column query =>
    have hc := hd.identifier (h (.name column) List.mem_cons_self)
    refine (hq query List.mem_cons_self).select.bind fun f hf => .pure ?_
    exact hc.between (isNeat_paren hf) (by split <;> decide)
  | between column lower higher =>
    simp only [Test.wordings, List.cons_append, List.forall_mem_cons, List.forall_mem_append] at h
    obtain ⟨hc, hl, hh⟩ := h
    have hlower := (hd.identifier hc).between
      (s := if isNot then " NOT BETWEEN " else " BETWEEN ") (hd.bound hl) (by split <;> decide)
    exact .of_ok (hlower.between (hd.bound hh) (by decide))
  | isNull column =>
    have hc := hd.identifier (h (.name column) List.mem_cons_self)
    exact .of_ok (hc.after (by split <;> decide))
  | nonempty query =>
    refine (hq query List.mem_cons_self).select.bind fun f hf => .pure ?_
    exact (isNeat_paren hf).before (by split <;> decide)
  | isTrue column b =>
    have hc := hd.identifier (h (.name column) List.mem_cons_self)
    exact .of_ok (hc.between (isNeat_coe.mpr (neat_boolLiteral d b)) (by split <;> decide))

theorem condition {c : Condition SubSelect} (h : ∀ w ∈ c.wordings, w.Fits)
    (hq : ∀ q ∈ c.nested, q.IsNeat) : Yields IsTidy (Sql.condition d c) := by
  induction c using Condition.induction with
  | test flags t =>
    rw [Condition.nested] at hq
    rw [Sql.condition]
    exact fun f hf => (hd.test _ h hq f hf).tidy
  | group flags members ih =>
    simp only [Condition.nested, Condition.mem_nestedMembers] at hq
    rw [Condition.wordings, Condition.forall_mem_allWordings] at h
    rw [Sql.condition]
    have hterms := yields_memberTerms fun c hc =>
      ih c hc (h c hc) fun q hmem => hq q ⟨c, hc, hmem⟩
    exact hterms.bind fun terms hterms => .pure (isTidy_group _ (isLead_empty.connect hterms))

theorem clauseTerm {c : Clause SubSelect} (h : c.item.IsNeat) :
    Yields (·.sql.IsTidy) (Sql.clauseTerm d c) := by
  unfold Sql.clauseTerm
  split
  · next cond hitem =>
    rw [hitem] at h
    refine (hd.condition h.wordings h.nested).bind fun f hf => .pure ?_
    rwa [hf.strip]
  · exact .of_error _

end Dialect.IsNeat

end PolySql
