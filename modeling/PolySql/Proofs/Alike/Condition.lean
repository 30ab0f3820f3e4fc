import PolySql.Proofs.Alike.Law

/-!
Conditions of alike queries. Main statement: alike conditions are written as related fragments, and
so are alike lists of them.
-/

namespace PolySql

open Text

/-- Nested queries with the same alias, and with related SQL or the same error. -/
structure SubSelect.Alike (sql : ℕ → Fragment → Fragment → Prop) (n : ℕ) (q q' : SubSelect) :
    Prop where
  aliasName : q.aliasName = q'.aliasName
  select : Agree (sql n) q.select q'.select

/-- Terms with the same connector and related SQL. -/
structure Sql.Term.Alike (sql : ℕ → Fragment → Fragment → Prop) (n : ℕ) (term term' : Sql.Term) :
    Prop where
  isOr : term.isOr = term'.isOr
  sql : sql n term.sql term'.sql

theorem Sql.likePattern?_isSome (operator value value' : String) :
    (likePattern? operator value).isSome = (likePattern? operator value').isSome := by
  unfold likePattern?
  split <;> rfl

theorem Sql.pattern_eq (d : Dialect) (column operator value : String) (caseSensitive : Bool) :
    Sql.pattern d column operator value caseSensitive =
      (if caseSensitive then d.identifier column else Dialect.lowerCall (d.identifier column) :
        String) ++ " " ++
      (if (likePattern? operator value).isSome then "LIKE" else operator : String) ++ " " ++
      d.bind (.str (patternText operator value caseSensitive)) := by
  unfold Sql.pattern patternText
  cases likePattern? operator value <;> cases caseSensitive <;> simp

namespace Lawful

variable {x : Exchange} {p : Content} {t : Target} {sql : ℕ → Fragment → Fragment → Prop}
  (law : Lawful x p t sql) {n : ℕ}

include law

theorem paren {f f' : Fragment} (h : sql n f f') : sql n (Sql.paren f) (Sql.paren f') :=
  law.after (law.before (law.word (by decide)) h) (law.word (by decide))

theorem negated {f f' : Fragment} (isNot : Bool) (h : sql n f f') :
    sql n (Sql.negated isNot f) (Sql.negated isNot f') := by
  cases isNot with
  | false => exact h
  | true => exact law.after (law.before (law.word (by decide)) h) (law.word (by decide))

/-- A column in front of a keyword. -/
theorem columnBefore {column s : String} {f f' : Fragment} (hc : Over p.letter column)
    (hword : s.toList.all isKeywordChar) (h : sql n f f') :
    sql n (t.dialect.identifier column ++ s ++ f) (t.dialect.identifier column ++ s ++ f') := by
  have hhead : Over p.letter (t.dialect.identifier column ++ s) :=
    (over_append _ _).mpr ⟨law.alphabet.identifier hc, law.word hword⟩
  simp only [Fragment.coe_append]
  exact law.before hhead h

/-- An operator between its left side and what follows. -/
theorem operatorBefore {left operator : String} {f f' : Fragment} (hl : Over p.letter left)
    (ho : Over p.letter operator) (h : sql n f f') :
    sql n (left ++ " " ++ operator ++ " " ++ f) (left ++ " " ++ operator ++ " " ++ f') := by
  have hblank : Over p.letter " " := law.word (by decide)
  have hhead : Over p.letter (left ++ " " ++ operator ++ " ") := by
    simp only [over_append]
    exact ⟨⟨⟨hl, hblank⟩, ho⟩, hblank⟩
  simp only [Fragment.coe_append]
  exact law.before hhead h

theorem pattern {column operator v v' : String} {caseSensitive : Bool} (hc : Over p.letter column)
    (ho : Over p.letter operator)
    (hv : x.value (.str (patternText operator v caseSensitive))
      (.str (patternText operator v' caseSensitive)))
    (hw : p.value (.str (patternText operator v caseSensitive))) :
    sql n (Sql.pattern t.dialect column operator v caseSensitive)
      (Sql.pattern t.dialect column operator v' caseSensitive) := by
  rw [Sql.pattern_eq, Sql.pattern_eq, Sql.likePattern?_isSome operator v' v]
  have hcolumn := law.alphabet.identifier hc
  apply law.operatorBefore
  · split
    · exact hcolumn
    · exact law.alphabet.lowerCall hcolumn
  · split
    · exact law.word (by decide)
    · exact ho
  · exact law.mono (law.value hv hw) n.zero_le

theorem oneOf {column : String} {bs bs' : List Bound} (isNot : Bool) (hc : Over p.letter column)
    (h : Along (Bound.Alike x) n bs bs') (hw : ∀ b ∈ bs, b.Within p) :
    sql n (Sql.oneOf t.dialect isNot column bs) (Sql.oneOf t.dialect isNot column bs') := by
  have hbind := law.paren (law.bindAll h hw)
  cases h with
  | nil => cases isNot <;> exact law.written (law.word (by decide))
  | cons head tail le => cases isNot <;> exact law.columnBefore hc (by decide) hbind

theorem between {column : String} {k m : ℕ} {a a' b b' : Bound} (isNot : Bool)
    (hc : Over p.letter column) (ha : a.Alike x k a') (hb : b.Alike x m b') (hwa : a.Within p)
    (hwb : b.Within p) (le : k + m ≤ n) :
    Agree (sql n) (Sql.test t.dialect isNot (.between column a b))
      (Sql.test t.dialect isNot (.between column a' b')) := by
  have hlower : sql k
      (t.dialect.identifier column ++ (if isNot then " NOT BETWEEN " else " BETWEEN ") ++
        t.dialect.bound a)
      (t.dialect.identifier column ++ (if isNot then " NOT BETWEEN " else " BETWEEN ") ++
        t.dialect.bound a') := by
    cases isNot <;> exact law.columnBefore hc (by decide) (law.bound ha hwa)
  have hand := law.after hlower (law.word (s := " AND ") (by decide))
  exact .ok (law.mono (law.append hand (law.bound hb hwb)) le)

theorem test {c c' : Test SubSelect} (isNot : Bool) (h : c.Alike x (SubSelect.Alike sql) n c')
    (hw : c.Within p) :
    Agree (sql n) (Sql.test t.dialect isNot c) (Sql.test t.dialect isNot c') := by
  cases h with
  | base => exact .error _
  | verbatim h =>
    simp only [Sql.test]
    exact law.verbatim h hw
  | compare h =>
    obtain ⟨hc, ho, hb⟩ := hw
    have hcolumn := law.alphabet.identifier hc
    exact .ok (law.negated isNot (law.operatorBefore hcolumn ho (law.bound h hb)))
  | pattern h => exact .ok (law.negated isNot (law.pattern hw.1 hw.2.1 h hw.2.2))
  | datePart h =>
    obtain ⟨hc, hp, ho, hb⟩ := hw
    have hcolumn := law.alphabet.datePart hp (law.alphabet.identifier hc)
    exact .ok (law.negated isNot (law.operatorBefore hcolumn ho (law.bound h hb)))
  | @columns first operator second =>
    obtain ⟨hf, ho, hs⟩ := hw
    have hsecond : sql n (t.dialect.identifier second : String)
        (t.dialect.identifier second : String) := law.written (law.alphabet.identifier hs)
    have hfirst : Over p.letter ((if isNot then "NOT " else "") ++ t.dialect.identifier first) := by
      rw [over_append]
      refine ⟨?_, law.alphabet.identifier hf⟩
      cases isNot <;> exact law.word (by decide)
    simp only [Sql.test, Fragment.coe_append (if isNot then "NOT " else "")]
    exact .ok (law.operatorBefore hfirst ho hsecond)
  | subquery h =>
    simp only [Sql.test]
    refine h.select.bind fun f f' hsql => .pure ?_
    have hcolumn := law.alphabet.identifier hw.1
    exact law.negated isNot (law.operatorBefore hcolumn hw.2 (law.paren hsql))
  | oneOf h => exact .ok (law.oneOf isNot hw.1 h hw.2)
  | oneOfQuery h =>
    simp only [Sql.test]
    refine h.select.bind fun f f' hsql => .pure ?_
    have hparen := law.paren hsql
    cases isNot <;> exact law.columnBefore hw (by decide) hparen
  | between h h' le => exact law.between isNot hw.1 h h' hw.2.1 hw.2.2 le
  | isNull =>
    refine .ok (law.after (law.written (law.alphabet.identifier hw)) ?_)
    cases isNot <;> exact law.word (by decide)
  | nonempty h =>
    simp only [Sql.test]
    refine h.select.bind fun f f' hsql => .pure (law.before ?_ (law.paren hsql))
    cases isNot <;> exact law.word (by decide)
  | @isTrue column b =>
    have hliteral : sql n (t.dialect.boolLiteral b : String) (t.dialect.boolLiteral b : String) :=
      law.written (law.alphabet.boolLiteral b)
    cases isNot <;> exact .ok (law.columnBefore hw (by decide) hliteral)

theorem connectFrom {lead : String} {terms terms' : List Sql.Term} (started : Bool)
    (hlead : Over p.letter lead) (h : Along (Sql.Term.Alike sql) n terms terms') :
    sql n (Sql.connectFrom lead started terms) (Sql.connectFrom lead started terms') := by
  induction h generalizing started with
  | nil => exact law.empty
  | @cons m k n term term' terms terms' head tail le ih =>
    have hconnector : Over p.letter
        ((if started then if term.isOr then " OR " else " AND " else "") ++ lead) := by
      rw [over_append]
      refine ⟨?_, hlead⟩
      cases started <;> cases term.isOr <;> exact law.word (by decide)
    simp only [Sql.connectFrom, ← head.isOr]
    apply law.ite_blank head.sql
    · exact law.mono (law.append head.sql (ih started)) le
    · exact law.mono (law.append (law.before hconnector head.sql) (ih true)) le

theorem connect {s : String} {terms terms' : List Sql.Term} (hlead : Over p.letter s)
    (h : Along (Sql.Term.Alike sql) n terms terms') :
    sql n (Sql.connect s terms) (Sql.connect s terms') :=
  law.connectFrom false hlead h

theorem group {f f' : Fragment} (isNot : Bool) (h : sql n f f') :
    sql n (Sql.group isNot f) (Sql.group isNot f') := by
  unfold Sql.group
  apply law.ite_blank h h
  cases isNot <;> exact law.before (law.word (by decide)) (law.paren h)

theorem memberTerms {ρ : ℕ → Condition SubSelect → Condition SubSelect → Prop}
    {members members' : List (Scoped (Condition SubSelect))}
    (hρ : ∀ m c c', ρ m c c' → c.flags = c'.flags ∧
      Agree (sql m) (Sql.condition t.dialect c) (Sql.condition t.dialect c'))
    (h : Along (Scoped.Alike ρ) n members members') :
    Agree (Along (Sql.Term.Alike sql) n) (Sql.memberTerms t.dialect members)
      (Sql.memberTerms t.dialect members') := by
  induction h with
  | nil => exact .ok .nil
  | cons head tail le ih =>
    cases head with
    | mk head =>
      obtain ⟨hflags, hcondition⟩ := hρ _ _ _ head
      simp only [Sql.memberTerms]
      split
      · refine hcondition.bind fun f f' hf => ?_
        refine ih.bind fun terms terms' hterms => ?_
        exact .pure (.cons ⟨congrArg Flags.isOr hflags, law.strip hf⟩ hterms le)
      · exact ih.mono fun _ _ h => h.mono (le_of_add_le_right le)

theorem condition {c c' : Condition SubSelect} (h : c.Alike x (SubSelect.Alike sql) n c')
    (hw : c.Within p) :
    Agree (sql n) (Sql.condition t.dialect c) (Sql.condition t.dialect c') := by
  induction h with
  | test h =>
    simp only [Condition.Within] at hw
    simp only [Sql.condition]
    exact law.test _ h hw
  | @group n flags members members' ρ hρ h ih =>
    simp only [Condition.Within, Condition.allWithin_iff] at hw
    simp only [Sql.condition]
    have hterms := law.memberTerms (fun m c c' hc => ⟨(hρ hc.1).flags_eq, ih hc.1 hc.2⟩)
      (h.and_item hw)
    exact hterms.bind fun terms terms' h => .pure (law.group _ (law.connect over_empty h))

/-- The members of an alike list of conditions. -/
theorem conditions {members members' : List (Scoped (Condition SubSelect))}
    (h : Along (Scoped.Alike (Condition.Alike x (SubSelect.Alike sql))) n members members')
    (hw : Condition.AllWithin p members) :
    Agree (Along (Sql.Term.Alike sql) n) (Sql.memberTerms t.dialect members)
      (Sql.memberTerms t.dialect members') := by
  rw [Condition.allWithin_iff] at hw
  exact law.memberTerms (fun m c c' hc => ⟨hc.1.flags_eq, law.condition hc.1 hc.2⟩)
    (h.and_item hw)

theorem clauseTerm {c c' : Clause SubSelect} {k : ℕ}
    (h : Scoped.Alike (Body.Alike x (SubSelect.Alike sql)) k c c') (hw : c.item.Within p) :
    Agree (Sql.Term.Alike sql k) (Sql.clauseTerm t.dialect c) (Sql.clauseTerm t.dialect c') := by
  cases h with
  | mk h =>
    have hkind := h.kind_eq
    cases h with
    | condition h =>
      refine (law.condition h hw).bind fun f f' hf => ?_
      exact .pure ⟨congrArg Flags.isOr h.flags_eq, law.strip hf⟩
    | _ => exact .of_error (congrArg (CompileError.unrecognized · .condition) hkind)

end Lawful

end PolySql
