import PolySql.Proofs.Alike.Condition
import PolySql.Sql.Select

/-!
Clauses of alike queries. Main statement: each kind of clause is written as related fragments, or
refused with the same error.
-/

namespace PolySql

open Text

/-- Clause bodies that are alike, with contents that are allowed. -/
structure Body.Fits (x : Exchange) (p : Content) (sql : ℕ → Fragment → Fragment → Prop) (n : ℕ)
    (b b' : Body SubSelect) : Prop where
  alike : b.Alike x (SubSelect.Alike sql) n b'
  within : b.Within p

namespace Lawful

variable {x : Exchange} {p : Content} {t : Target} {sql : ℕ → Fragment → Fragment → Prop}
  (law : Lawful x p t sql) {n : ℕ}

include law

theorem aliasSuffix {aliasName : Option String} (h : ∀ s ∈ aliasName, Over p.letter s) :
    Over p.letter (Sql.aliasSuffix t.dialect aliasName) := by
  unfold Sql.aliasSuffix
  split
  · exact over_empty
  · exact over_empty
  · rw [over_append]
    exact ⟨law.word (by decide), law.alphabet.quote (h _ rfl)⟩

omit law in
theorem refName_derived {q q' : SubSelect} {aliasName : Option String}
    (h : SubSelect.Alike sql n q q') :
    (Table.derived q aliasName).refName = (Table.derived q' aliasName).refName := by
  simp only [Table.refName]
  exact congrArg _ h.aliasName

omit law in
theorem over_refName_derived {q : SubSelect} {aliasName : Option String}
    (hw : (Table.derived q aliasName).Within p) :
    ∀ s ∈ (Table.derived q aliasName).refName, Over p.letter s := by
  obtain ⟨hown, hquery⟩ := hw
  intro s hs
  simp only [Table.refName, Option.mem_def, Option.or_eq_some_iff] at hs
  rcases hs with hs | ⟨-, hs⟩
  · exact hown s (Option.filter_eq_some_iff.mp hs |>.1)
  · exact hquery s hs

theorem table {a a' : Table SubSelect} (h : a.Alike x (SubSelect.Alike sql) n a')
    (hw : a.Within p) : Agree (sql n) (Sql.table t.dialect a) (Sql.table t.dialect a') := by
  cases h with
  | base => exact .error _
  | named => exact .ok (law.written (law.alphabet.identifier hw))
  | verbatim h => exact law.verbatim h hw.1
  | derived h =>
    simp only [Sql.table, ← refName_derived h]
    refine h.select.bind fun f f' hf => .pure ?_
    exact law.after (law.paren hf) (law.aliasSuffix (over_refName_derived hw))

theorem tableOf {b b' : Body SubSelect} (h : b.Fits x p sql n b') :
    Agree (sql n) (Sql.tableOf t.dialect b) (Sql.tableOf t.dialect b') := by
  obtain ⟨h, hw⟩ := h
  have hkind := h.kind_eq
  cases h with
  | table h => exact law.table h hw
  | _ => exact .of_error (congrArg (CompileError.unrecognized · .table) hkind)

theorem join {b b' : Body SubSelect} (h : b.Fits x p sql n b') :
    Agree (sql n) (Sql.join t.dialect b) (Sql.join t.dialect b') := by
  obtain ⟨h, hw⟩ := h
  have hkind := h.kind_eq
  cases h with
  | join h =>
    cases h with
    | @explicit k m type component engine a a' members members' htable hon le =>
      obtain ⟨hwt, hwm⟩ := hw
      simp only [Sql.join]
      refine (law.table htable hwt).bind fun f f' hf => ?_
      refine (law.conditions hon hwm).bind fun terms terms' hterms => .pure ?_
      have hsql := law.connect (s := "") over_empty hterms
      have hlead : Over p.letter (type.name ++ " JOIN ") := by
        rw [over_append]
        exact ⟨law.alphabet.joinType type, law.word (by decide)⟩
      have htarget := law.before hlead hf
      apply law.ite_blank hsql
      · exact law.mono (law.append htarget hsql) le
      · exact law.mono (law.append (law.after htarget (law.word (by decide))) hsql) le
    | _ => exact .of_error (congrArg (CompileError.unrecognized · .join) hkind)
  | _ => exact .of_error (congrArg (CompileError.unrecognized · .join) hkind)

theorem column {b b' : Body SubSelect} (h : b.Fits x p sql n b') :
    Agree (sql n) (Sql.column t.dialect b) (Sql.column t.dialect b') := by
  obtain ⟨h, hw⟩ := h
  have hkind := h.kind_eq
  cases h with
  | column h =>
    cases h with
    | base => exact .error _
    | named => exact .ok (law.written (law.alphabet.identifier hw))
    | verbatim h => exact law.verbatim h hw
    | subquery h =>
      simp only [Sql.column, ← h.aliasName]
      refine h.select.bind fun f f' hf => .pure ?_
      exact law.after (law.paren hf) (law.aliasSuffix hw)
  | _ => exact .of_error (congrArg (CompileError.unrecognized · .column) hkind)

theorem definition {aliasName : Option String} {query query' : Except CompileError Fragment}
    (ha : ∀ s ∈ aliasName, Over p.letter s) (h : Agree (sql n) query query') :
    Agree (sql n) (Sql.definition t.dialect aliasName query)
      (Sql.definition t.dialect aliasName query') := by
  unfold Sql.definition
  split
  · exact .error _
  · exact .error _
  · refine h.bind fun f f' hf => .pure ?_
    have hname : Over p.letter (t.dialect.quote _ ++ " AS ") :=
      (over_append _ _).mpr ⟨law.alphabet.quote (ha _ rfl), law.word (by decide)⟩
    exact law.before hname (law.paren hf)

theorem cte {b b' : Body SubSelect} (h : b.Fits x p sql n b') :
    Agree (sql n) (Sql.cte t.dialect b) (Sql.cte t.dialect b') := by
  obtain ⟨h, hw⟩ := h
  have hkind := h.kind_eq
  cases h with
  | table h =>
    cases h with
    | verbatim h => exact law.definition hw.2 (law.verbatim h hw.1)
    | derived h =>
      simp only [Sql.cte, ← refName_derived h]
      exact law.definition (over_refName_derived hw) h.select
    | _ => exact .of_error (congrArg (CompileError.unrecognized · .cte) hkind)
  | _ => exact .of_error (congrArg (CompileError.unrecognized · .cte) hkind)

theorem orderItem {b b' : Body SubSelect} (h : b.Fits x p sql n b') :
    Agree (sql n) (Sql.orderItem t b) (Sql.orderItem t b') := by
  obtain ⟨h, hw⟩ := h
  have hkind := h.kind_eq
  cases h with
  | order h =>
    cases h with
    | base => exact .error _
    | @column column ascending =>
      refine .ok (law.after (law.written (law.alphabet.identifier hw)) ?_)
      cases ascending <;> exact law.word (by decide)
    | verbatim h => exact law.verbatim h hw
    | random => exact .ok (law.written (law.alphabet.random hw))
  | _ => exact .of_error (congrArg (CompileError.unrecognized · .order) hkind)

theorem union {b b' : Body SubSelect} (h : b.Fits x p sql n b') :
    Agree (sql n) (Sql.union t b) (Sql.union t b') := by
  obtain ⟨h, hw⟩ := h
  have hkind := h.kind_eq
  cases h with
  | union h =>
    cases h with
    | base => exact .error _
    | @operand operation all q q' h =>
      simp only [Sql.union]
      refine h.select.bind fun f f' hf => .pure ?_
      simp only [Fragment.coe_append]
      refine law.before ((over_append _ _).mpr ⟨law.alphabet.setKeyword operation, ?_⟩) hf
      cases all <;> exact law.word (by decide)
    | verbatim h => exact law.verbatim h hw
  | _ => exact .of_error (congrArg (CompileError.unrecognized · .union) hkind)

end Lawful

end PolySql
