import PolySql.Proofs.Spacing.Condition

/-!
Clauses with single spaces. Main statement: each kind of clause is written neatly, or refused, if
its texts fit and the queries nested in it are neat.
-/

namespace PolySql

open Text Fragment

namespace Dialect.IsNeat

variable {d : Dialect} (hd : d.IsNeat)

include hd

/-- The alias comes with a space in front. -/
theorem append_aliasSuffix {f : Fragment} (hf : f.IsNeat) {aliasName : Option String}
    (h : ∀ s ∈ aliasName, SingleSpaced s.toList) :
    (f ++ Sql.aliasSuffix d aliasName : Fragment).IsNeat := by
  unfold Sql.aliasSuffix
  split
  · exact hf.append_blank rfl
  · exact hf.append_blank rfl
  · next name _ =>
    have hname := hd.quote (h name rfl)
    simpa only [append_assoc, coe_append] using hf.between (s := " AS ") hname (by decide)

theorem table {a : Table SubSelect} (h : (Body.table a).IsNeat) :
    Yields Fragment.IsNeat (Sql.table d a) := by
  cases a with
  | base => exact .of_error _
  | named name => exact .of_ok (hd.identifier (h.wordings (.name name) List.mem_cons_self))
  | verbatim sql aliasName =>
    exact hd.verbatimText fun w hw => h.wordings w (List.mem_append_left _ hw)
  | derived query aliasName =>
    refine (h.nested query List.mem_cons_self).select.bind fun f hf => .pure ?_
    exact hd.append_aliasSuffix (isNeat_paren hf) fun s hs => singleSpaced_refName h hs

theorem tableOf {b : Body SubSelect} (h : b.IsNeat) : Yields Fragment.IsNeat (Sql.tableOf d b) := by
  cases b with
  | table a => exact hd.table h
  | _ => exact .of_error _

theorem join {b : Body SubSelect} (h : b.IsNeat) : Yields Fragment.IsNeat (Sql.join d b) := by
  cases b with
  | join j =>
    cases j with
    | explicit j =>
      obtain ⟨hwords, hnested⟩ := h
      simp only [Body.wordings, JoinClause.wordings, List.forall_mem_append,
        Condition.forall_mem_allWordings] at hwords
      simp only [Body.nested, JoinClause.nested, List.forall_mem_append] at hnested
      have htarget := hd.table (a := j.table.item) ⟨hwords.1, hnested.1⟩
      have hterms := yields_memberTerms fun c hc => hd.condition (hwords.2 c hc) fun q hq =>
        hnested.2 q (Condition.mem_nestedMembers.mpr ⟨c, hc, hq⟩)
      refine htarget.bind fun f hf => hterms.bind fun terms hterms => .pure ?_
      have hon := isLead_empty.connect hterms
      have hjoin : (j.type.name ++ " JOIN " ++ f : Fragment).IsNeat :=
        hf.before ⟨(JoinType.starts_name j.type).append _, by cases j.type <;> decide⟩
      apply Fragment.IsNeat.ite
      · exact hjoin.append_blank
      · exact fun hwritten => hjoin.between (hon.resolve_left hwritten) (by decide)
    | _ => exact .of_error _
  | _ => exact .of_error _

theorem column {b : Body SubSelect} (h : b.IsNeat) : Yields Fragment.IsNeat (Sql.column d b) := by
  cases b with
  | column c =>
    cases c with
    | base => exact .of_error _
    | named name => exact .of_ok (hd.identifier (h.wordings (.name name) List.mem_cons_self))
    | verbatim sql => exact hd.verbatimText h.wordings
    | subquery query =>
      have hquery := h.nested query List.mem_cons_self
      refine hquery.select.bind fun f hf => .pure ?_
      exact hd.append_aliasSuffix (isNeat_paren hf) hquery.aliasName
  | _ => exact .of_error _

theorem definition {aliasName : Option String} {query : Except CompileError Fragment}
    (hname : ∀ s ∈ aliasName, SingleSpaced s.toList) (h : Yields Fragment.IsNeat query) :
    Yields Fragment.IsNeat (Sql.definition d aliasName query) := by
  unfold Sql.definition
  split
  · exact .of_error _
  · exact .of_error _
  · next name _ =>
    refine h.bind fun f hf => .pure ?_
    exact (hd.quote (hname name rfl)).between (isNeat_paren hf) (by decide)

theorem cte {b : Body SubSelect} (h : b.IsNeat) : Yields Fragment.IsNeat (Sql.cte d b) := by
  cases b with
  | table a =>
    have hname : ∀ s ∈ a.refName, SingleSpaced s.toList := fun s hs => singleSpaced_refName h hs
    have htable := hd.table h
    cases a with
    | verbatim sql aliasName => exact hd.definition hname htable
    | derived query aliasName =>
      exact hd.definition hname (h.nested query List.mem_cons_self).select
    | _ => exact .of_error _
  | _ => exact .of_error _

end Dialect.IsNeat

section Items

variable {t : Target} (hd : t.dialect.IsNeat) {b : Body SubSelect} (h : b.IsNeat)

include hd h

theorem yields_orderItem : Yields Fragment.IsNeat (Sql.orderItem t b) := by
  cases b with
  | order item =>
    cases item with
    | base => exact .of_error _
    | column column ascending =>
      have hcolumn := hd.identifier (h.wordings (.name column) List.mem_cons_self)
      cases ascending with
      | true => exact .of_ok (hcolumn.append_blank rfl)
      | false => exact .of_ok (hcolumn.after (s := " DESC") (by decide))
    | verbatim sql => exact hd.verbatimText h.wordings
    | random seed =>
      refine .of_ok (neat_random t.dialect ?_)
      by_cases hseed : seed = ""
      · exact .inl hseed
      · refine .inr (h.wordings (.word seed) ?_)
        rw [Body.wordings, OrderItem.wordings, if_neg hseed]
        exact List.mem_cons_self
  | _ => exact .of_error _

theorem yields_union : Yields Fragment.IsNeat (Sql.union t b) := by
  cases b with
  | union u =>
    cases u with
    | base => exact .of_error _
    | operand operation all query =>
      refine (h.nested query List.mem_cons_self).select.bind fun f hf => .pure ?_
      have hkeyword : Neat (Sql.setKeyword operation) := by cases operation <;> decide
      exact (isNeat_coe.mpr hkeyword).between hf (by split <;> decide)
    | verbatim sql => exact hd.verbatimText h.wordings
  | _ => exact .of_error _

end Items

end PolySql
