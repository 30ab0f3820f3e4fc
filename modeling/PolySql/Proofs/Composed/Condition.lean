import PolySql.Proofs.Alike.Condition
import PolySql.Proofs.Composed.Plain

/-!
Conditions of plain queries. Main statement: a plain condition is written as composed SQL if the
queries nested in it are.
-/

namespace PolySql

open Text Fragment

variable {d : Dialect} {p : Char → Prop} {f left : Fragment}

/-- The SQL of the nested query, if it has any, is composed. -/
def SubSelect.IsComposed (d : Dialect) (p : Char → Prop) (q : SubSelect) : Prop :=
  Yields (·.IsComposed d p) q.select

theorem Text.Over.ite {c : Prop} [Decidable c] {s s' : String} (h : Over p s) (h' : Over p s') :
    Over p (if c then s else s') := by
  split
  · exact h
  · exact h'

namespace Composing

variable (law : Composing d p)

include law

theorem either (b : Bool) {s u : String} (hs : s.toList.all isKeywordChar)
    (hu : u.toList.all isKeywordChar) : Over p (if b then s else u) :=
  Over.ite (law.word hs) (law.word hu)

omit law in
theorem bound {b : Bound} (h : b.IsValue) : (d.bound b).IsComposed d p := by
  cases b with
  | value v => exact .bind v
  | raw sql => exact h.elim

theorem bindAll {bs : List Bound} (h : ∀ b ∈ bs, b.IsValue) :
    (bindAll d.placeholder bs).IsComposed d p := by
  refine .separated (law.word (by decide)) fun f hf => ?_
  obtain ⟨b, hb, rfl⟩ := List.mem_map.mp hf
  exact bound (h b hb)

theorem negated (isNot : Bool) (h : f.IsComposed d p) : (Sql.negated isNot f).IsComposed d p :=
  .ite (fun _ => (IsComposed.before (law.word (by decide)) h).after (law.word (by decide)))
    fun _ => h

/-- An operator between its left side and what follows. -/
theorem operatorBefore {operator : String} (hl : left.IsComposed d p) (ho : Over p operator)
    (h : f.IsComposed d p) : (left ++ " " ++ operator ++ " " ++ f).IsComposed d p := by
  have hblank : Over p " " := law.word (by decide)
  exact (((hl.after hblank).after ho).after hblank).append h

theorem lowerCall {s : String} (h : IsComposed d p (s : String)) :
    IsComposed d p (Dialect.lowerCall s : String) :=
  h.enclosed (law.word (by decide)) (law.word (by decide))

theorem pattern {column operator : String} (value : String) (caseSensitive : Bool)
    (hc : IsName column) (ho : Over p operator) :
    (Sql.pattern d column operator value caseSensitive).IsComposed d p := by
  have hcolumn := law.identifier hc
  -- The pattern itself is bound, so only the column and the operator are text.
  rw [Sql.pattern_eq]
  refine law.operatorBefore ?_ (Over.ite (law.word (by decide)) ho) (.bind _)
  split
  · exact hcolumn
  · exact law.lowerCall hcolumn

theorem oneOf {column : String} {bs : List Bound} (isNot : Bool) (hc : IsName column)
    (h : ∀ b ∈ bs, b.IsValue) : (Sql.oneOf d isNot column bs).IsComposed d p := by
  have hlist := law.paren (law.bindAll h)
  refine .ite (fun _ => ?_) fun _ => ?_
  · exact .ite (fun _ => law.written (by decide)) fun _ => law.written (by decide)
  · exact ((law.identifier hc).after (law.either isNot (by decide) (by decide))).append hlist

/-- A call by name. -/
theorem call {function s : String} (hf : Over p function) (h : IsComposed d p (s : String)) :
    IsComposed d p (function ++ "(" ++ s ++ ")" : String) :=
  h.enclosed ((over_append _ _).mpr ⟨hf, law.word (by decide)⟩) (law.word (by decide))

theorem datePart {part column : String} (hp : Over p part)
    (hc : IsComposed d p (column : String)) : IsComposed d p (d.datePart part column : String) := by
  have hupper := law.alphabet.upperText hp
  have hlower := law.alphabet.lowerText hp
  have hname := law.alphabet.upperText hlower
  have hcall := law.call hupper hc
  have hword : ∀ {s : String}, s.toList.all isKeywordChar → Over p s := law.word
  simp only [Dialect.datePart]
  split
  · exact hcall
  · next hf =>
    split
    · exact hcall
    · next format numeric hlookup =>
      have hformat := law.alphabet.strftimeFormat hf hlookup
      have hsql : IsComposed d p ("strftime('" ++ format ++ "', " ++ column ++ ")" : String) :=
        hc.enclosed (by simp +decide [hformat, hword]) (hword (by decide))
      split
      · exact hsql.enclosed (hword (by decide)) (hword (by decide))
      · exact hsql
  · split
    · exact hc.coe_append (.text (hword (by decide)))
    · split
      · exact hc.coe_append (.text (hword (by decide)))
      · have hfield := Alphabet.over_doubled hlower
        exact hc.enclosed (by simp +decide [hfield, hword]) (hword (by decide))
  · split
    · exact law.call hname hc
    · exact hc.enclosed (by simp +decide [hupper, hword]) (hword (by decide))
  · split
    · have hcast := hc.enclosed (hword (s := "CAST(") (by decide)) (hword (s := " AS ") (by decide))
      exact (hcast.coe_append (.text hname)).coe_append (.text (hword (by decide)))
    · exact hc.enclosed (by simp +decide [hname, hword]) (hword (by decide))

theorem test {c : Test SubSelect} (isNot : Bool) (h : c.Plain p)
    (hq : ∀ q ∈ c.nested, q.IsComposed d p) :
    Yields (·.IsComposed d p) (Sql.test d isNot c) := by
  cases c with
  | base => exact .of_error _
  | verbatim sql => exact h.elim
  | compare column operator value =>
    obtain ⟨hc, ho, hv⟩ := h
    apply Yields.of_ok
    exact law.negated isNot (law.operatorBefore (law.identifier hc) ho (bound hv))
  | pattern column operator value caseSensitive =>
    exact .of_ok (law.negated isNot (law.pattern value caseSensitive h.1 h.2))
  | datePart column part operator value =>
    obtain ⟨hc, hp, ho, hv⟩ := h
    have hcolumn := law.datePart hp (law.identifier hc)
    exact .of_ok (law.negated isNot (law.operatorBefore hcolumn ho (bound hv)))
  | columns first operator second =>
    obtain ⟨hf, ho, hs⟩ := h
    have hnot := law.either isNot (s := "NOT ") (u := "") (by decide) (by decide)
    have hfirst := (law.identifier hf).before hnot
    exact .of_ok (law.operatorBefore hfirst ho (law.identifier hs))
  | subquery column operator query =>
    refine (hq query List.mem_cons_self).bind fun f hf => .pure ?_
    exact (law.negated isNot (law.operatorBefore (law.identifier h.1) h.2 (law.paren hf)))
  | oneOf column values => exact .of_ok (law.oneOf isNot h.1 h.2)
  | oneOfQuery column query =>
    refine (hq query List.mem_cons_self).bind fun f hf => .pure ?_
    have hkeyword := law.either isNot (s := " NOT IN ") (u := " IN ") (by decide) (by decide)
    exact (((law.identifier h).after hkeyword).append (law.paren hf))
  | between column lower higher =>
    obtain ⟨hc, hl, hh⟩ := h
    have hkeyword := law.either isNot (s := " NOT BETWEEN ") (u := " BETWEEN ") (by decide)
      (by decide)
    have hlower := ((law.identifier hc).after hkeyword).append (bound hl)
    exact .of_ok ((hlower.after (law.word (by decide))).append (bound hh))
  | isNull column =>
    have hkeyword := law.either isNot (s := " IS NOT NULL") (u := " IS NULL") (by decide)
      (by decide)
    exact .of_ok ((law.identifier h).after hkeyword)
  | nonempty query =>
    refine (hq query List.mem_cons_self).bind fun f hf => .pure ?_
    have hkeyword := law.either isNot (s := "NOT EXISTS ") (u := "EXISTS ") (by decide)
      (by decide)
    exact ((law.paren hf).before hkeyword)
  | isTrue column b =>
    have hkeyword := law.either isNot (s := " != ") (u := " = ") (by decide) (by decide)
    have hliteral : Over p (d.boolLiteral b) := law.alphabet.boolLiteral b
    exact .of_ok (((law.identifier h).after hkeyword).after hliteral)

theorem connectFrom {lead : String} {terms : List Sql.Term} (started : Bool) (hlead : Over p lead)
    (h : ∀ term ∈ terms, term.sql.IsComposed d p) :
    (Sql.connectFrom lead started terms).IsComposed d p := by
  induction terms generalizing started with
  | nil => exact .empty
  | cons term rest ih =>
    have hterm := h term List.mem_cons_self
    have hrest := fun started => ih started fun u hu => h u (List.mem_cons_of_mem _ hu)
    simp only [Sql.connectFrom]
    split
    · exact hterm.append (hrest started)
    · have hword := law.either term.isOr (s := " OR ") (u := " AND ") (by decide) (by decide)
      have hconnector : Over p (if started then if term.isOr then " OR " else " AND " else "") :=
        Over.ite hword over_empty
      have hwords : IsComposed d p _ := (IsComposed.text hconnector).after hlead
      exact (hwords.append hterm).append (hrest true)

theorem connect {lead : String} {terms : List Sql.Term} (hlead : Over p lead)
    (h : ∀ term ∈ terms, term.sql.IsComposed d p) : (Sql.connect lead terms).IsComposed d p :=
  law.connectFrom false hlead h

theorem group (isNot : Bool) (h : f.IsComposed d p) : (Sql.group isNot f).IsComposed d p := by
  have hnot := law.either isNot (s := "NOT ") (u := "") (by decide) (by decide)
  exact .ite (fun _ => h) fun _ => (law.paren h).before hnot

/-- Terms of conditions that are written as composed SQL. -/
theorem memberTerms {members : List (Scoped (Condition SubSelect))}
    (h : ∀ c ∈ members, Yields (·.IsComposed d p) (Sql.condition d c.item)) :
    Yields (∀ term ∈ ·, term.sql.IsComposed d p) (Sql.memberTerms d members) := by
  induction members with
  | nil => exact .of_ok fun term hterm => by cases hterm
  | cons c rest ih =>
    have hrest := ih fun c hc => h c (List.mem_cons_of_mem _ hc)
    obtain ⟨component, engine, c⟩ := c
    rw [Sql.memberTerms]
    split
    · refine (h _ List.mem_cons_self).bind fun f hf => ?_
      refine hrest.bind fun terms hterms => .pure ?_
      exact List.forall_mem_cons.mpr ⟨hf.strip law, hterms⟩
    · exact hrest

theorem condition {c : Condition SubSelect} (h : c.Plain p)
    (hq : ∀ q ∈ c.nested, q.IsComposed d p) : Yields (·.IsComposed d p) (Sql.condition d c) := by
  induction h with
  | test h =>
    rw [Condition.nested] at hq
    rw [Sql.condition]
    exact law.test _ h hq
  | @group flags members _ ih =>
    simp only [Condition.nested, Condition.mem_nestedMembers] at hq
    rw [Sql.condition]
    have hterms := law.memberTerms fun c hc => ih c hc fun q hmem => hq q ⟨c, hc, hmem⟩
    refine hterms.bind fun terms hterms => .pure ?_
    exact (law.group _ (law.connect over_empty hterms))

theorem clauseTerm {c : Clause SubSelect} (h : c.item.Plain p)
    (hq : ∀ q ∈ c.item.nested, q.IsComposed d p) :
    Yields (·.sql.IsComposed d p) (Sql.clauseTerm d c) := by
  unfold Sql.clauseTerm
  split
  · next cond hitem =>
    rw [hitem] at h hq
    refine (law.condition h hq).bind fun f hf => .pure ?_
    exact (hf.strip law)
  · exact .of_error _

end Composing

end PolySql
