import PolySql.Proofs.Composed.Condition
import PolySql.Sql.Select

/-!
Clauses of plain queries. Main statement: each kind of clause is written as composed SQL, or
refused.
-/

namespace PolySql

open Text Fragment

/-- A clause body without SQL of its own, over nested queries whose SQL is composed. -/
structure Body.Composes (d : Dialect) (p : Char → Prop) (b : Body SubSelect) : Prop where
  plain : b.Plain p
  nested : ∀ q ∈ b.nested, q.IsComposed d p

namespace Composing

variable {d : Dialect} {p : Char → Prop} (law : Composing d p)

include law

theorem aliasSuffix (aliasName : Option String) :
    IsComposed d p (Sql.aliasSuffix d aliasName : String) := by
  unfold Sql.aliasSuffix
  split
  · exact .empty
  · exact .empty
  · exact IsComposed.coe_append (law.written (by decide)) (.name _)

theorem table {a : Table SubSelect} (h : a.Plain) (hq : ∀ q ∈ a.nested, q.IsComposed d p) :
    Yields (·.IsComposed d p) (Sql.table d a) := by
  cases a with
  | base => exact .of_error _
  | named name => exact .of_ok (law.identifier h)
  | verbatim sql aliasName => exact h.elim
  | derived query aliasName =>
    refine (hq query List.mem_cons_self).bind fun f hf => .pure ?_
    exact (law.paren hf).append (law.aliasSuffix _)

theorem tableOf {b : Body SubSelect} (h : b.Composes d p) :
    Yields (·.IsComposed d p) (Sql.tableOf d b) := by
  obtain ⟨hplain, hq⟩ := h
  cases b with
  | table a => exact law.table hplain hq
  | _ => exact .of_error _

theorem join {b : Body SubSelect} (h : b.Composes d p) :
    Yields (·.IsComposed d p) (Sql.join d b) := by
  obtain ⟨hplain, hq⟩ := h
  cases b with
  | join j =>
    cases j with
    | explicit j =>
      obtain ⟨htable, hconditions⟩ := hplain
      simp only [Body.nested, JoinClause.nested, List.mem_append, Condition.mem_nestedMembers]
        at hq
      have htarget := law.table htable fun q hmem => hq q (.inl hmem)
      have hterms := law.memberTerms fun c hc =>
        law.condition (hconditions c hc) fun q hmem => hq q (.inr ⟨c, hc, hmem⟩)
      refine htarget.bind fun f hf => hterms.bind fun terms hterms => .pure ?_
      have hon := law.connect over_empty hterms
      have hlead : Over p (j.type.name ++ " JOIN ") :=
        (over_append _ _).mpr ⟨law.alphabet.joinType j.type, law.word (by decide)⟩
      have hjoin := hf.before hlead
      apply IsComposed.ite
      · intro _
        exact hjoin.append hon
      · intro _
        exact (hjoin.after (law.word (by decide))).append hon
    | _ => exact .of_error _
  | _ => exact .of_error _

theorem column {b : Body SubSelect} (h : b.Composes d p) :
    Yields (·.IsComposed d p) (Sql.column d b) := by
  obtain ⟨hplain, hq⟩ := h
  cases b with
  | column c =>
    cases c with
    | base => exact .of_error _
    | named name => exact .of_ok (law.identifier hplain)
    | verbatim sql => exact hplain.elim
    | subquery query =>
      refine (hq query List.mem_cons_self).bind fun f hf => .pure ?_
      exact (law.paren hf).append (law.aliasSuffix _)
  | _ => exact .of_error _

theorem definition {aliasName : Option String} {query : Except CompileError Fragment}
    (h : Yields (·.IsComposed d p) query) :
    Yields (·.IsComposed d p) (Sql.definition d aliasName query) := by
  unfold Sql.definition
  split
  · exact .of_error _
  · exact .of_error _
  · refine h.bind fun f hf => .pure ?_
    exact ((IsComposed.name _).after (law.word (by decide))).append (law.paren hf)

theorem cte {b : Body SubSelect} (h : b.Composes d p) :
    Yields (·.IsComposed d p) (Sql.cte d b) := by
  obtain ⟨hplain, hq⟩ := h
  cases b with
  | table a =>
    cases a with
    | verbatim sql aliasName => exact hplain.elim
    | derived query aliasName => exact law.definition (hq query List.mem_cons_self)
    | _ => exact .of_error _
  | _ => exact .of_error _

end Composing

namespace Composing

variable {t : Target} {p : Char → Prop} (law : Composing t.dialect p)

include law

theorem orderItem {b : Body SubSelect} (h : b.Plain p) :
    Yields (·.IsComposed t.dialect p) (Sql.orderItem t b) := by
  cases b with
  | order item =>
    cases item with
    | base => exact .of_error _
    | column column ascending =>
      have hkeyword := law.either ascending (s := "") (u := " DESC") (by decide) (by decide)
      exact .of_ok ((law.identifier h).after hkeyword)
    | verbatim sql => exact h.elim
    | random seed => exact .of_ok (.text (law.alphabet.random h))
  | _ => exact .of_error _

theorem union {b : Body SubSelect} (h : b.Composes t.dialect p) :
    Yields (·.IsComposed t.dialect p) (Sql.union t b) := by
  obtain ⟨hplain, hq⟩ := h
  cases b with
  | union u =>
    cases u with
    | base => exact .of_error _
    | operand operation all query =>
      refine (hq query List.mem_cons_self).bind fun f hf => .pure ?_
      have hkeyword := law.either all (s := " ALL ") (u := " ") (by decide) (by decide)
      exact ((IsComposed.text (law.alphabet.setKeyword operation)).after hkeyword).append hf
    | verbatim sql => exact hplain.elim
  | _ => exact .of_error _

end Composing

end PolySql
