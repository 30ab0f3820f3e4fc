import PolySql.Proofs.Alike.Law
import PolySql.Sql.Statement

/-!
Verbatim SQL in one pass: marked names in their quotes, and the marks `?` between them filled. Main
statement: names first and marks afterwards is the same exactly if no quoted name holds a mark.
-/

namespace PolySql

open Text

namespace Dialect

variable (d : Dialect)

/-- The parts of verbatim SQL with the marks between names filled; a name is put in as it is. -/
def fillBetween : List Part → List Bound → Fragment
  | [], _ => ∅
  | .name cs :: ps, bs => d.identifier (String.ofList cs) ++ fillBetween ps bs
  | .char c :: ps, bs =>
    match c, bs with
    | '?', b :: rest => d.bound b ++ fillBetween ps rest
    | _, _ => String.singleton c ++ fillBetween ps bs

/-- Verbatim SQL with as many marks between its names as bindings. -/
def verbatimBetween (sql : Verbatim) : Except CompileError Fragment :=
  if (parts 0 sql.expression.toList).count (.char '?') = sql.bindings.length then
    .ok (d.fillBetween (parts 0 sql.expression.toList) sql.bindings)
  else .error (.bindingCount (d.quoteMarkers sql.expression) sql.bindings.length)

def spelled : Part → List Char
  | .char c => [c]
  | .name cs => (d.identifier (String.ofList cs)).toList

theorem quoteMarkers_eq (expression : String) :
    d.quoteMarkers expression =
      String.ofList ((parts 0 expression.toList).flatMap d.spelled) := by
  refine congrArg String.ofList (List.flatMap_congr fun part _ => ?_)
  cases part <;> rfl

end Dialect

section Between

variable {d : Dialect} {ps : List Part}

/-- No quoted name holds a mark. -/
def NamesUnmarked (d : Dialect) (ps : List Part) : Prop :=
  ∀ cs, Part.name cs ∈ ps → '?' ∉ (d.identifier (String.ofList cs)).toList

theorem count_le_count_spelled (d : Dialect) (ps : List Part) :
    ps.count (.char '?') ≤ (ps.flatMap d.spelled).count '?' := by
  induction ps with
  | nil => exact Nat.le_refl 0
  | cons part ps ih =>
    rw [List.flatMap_cons, List.count_append]
    cases part with
    | char c =>
      by_cases hc : c = '?'
      · subst hc
        rw [List.count_cons_self, Dialect.spelled, List.count_singleton_self]
        omega
      · rw [List.count_cons_of_ne (by simpa using hc)]
        omega
    | name cs =>
      rw [List.count_cons_of_ne (by simp)]
      omega

/-- Every mark stands between names exactly if the names have none. -/
theorem count_eq_count_spelled_iff :
    ps.count (.char '?') = (ps.flatMap d.spelled).count '?' ↔ NamesUnmarked d ps := by
  induction ps with
  | nil => simp [NamesUnmarked]
  | cons part ps ih =>
    rw [List.flatMap_cons, List.count_append]
    cases part with
    | char c =>
      have hrest : NamesUnmarked d (.char c :: ps) ↔ NamesUnmarked d ps := by
        simp [NamesUnmarked]
      rw [hrest, ← ih]
      by_cases hc : c = '?'
      · subst hc
        rw [List.count_cons_self, Dialect.spelled, List.count_singleton_self]
        omega
      · have hzero : [c].count '?' = 0 := List.count_eq_zero_of_not_mem (by simpa using Ne.symm hc)
        rw [List.count_cons_of_ne (by simpa using hc), Dialect.spelled, hzero, Nat.zero_add]
    | name cs =>
      have hrest : NamesUnmarked d (.name cs :: ps) ↔
          (d.spelled (.name cs)).count '?' = 0 ∧ NamesUnmarked d ps := by
        simp [NamesUnmarked, Dialect.spelled, or_imp, forall_and, List.count_eq_zero]
      have hle := count_le_count_spelled d ps
      rw [hrest, ← ih, List.count_cons_of_ne (by simp)]
      omega

theorem fillMarks_append {placeholder : String} {cs ds : List Char} {bs : List Bound}
    (h : '?' ∉ cs) :
    fillMarks placeholder (cs ++ ds) bs = String.ofList cs ++ fillMarks placeholder ds bs := by
  induction cs with
  | nil => exact (Fragment.empty_append _).symm
  | cons c cs ih =>
    rw [List.mem_cons, not_or] at h
    rw [List.cons_append, fillMarks_of_ne (Ne.symm h.1), ih h.2, ← Fragment.append_assoc,
      Fragment.coe_append, String.ofList_cons]

theorem fillMarks_spelled (h : NamesUnmarked d ps) (bs : List Bound) :
    fillMarks d.placeholder (ps.flatMap d.spelled) bs = d.fillBetween ps bs := by
  induction ps generalizing bs with
  | nil => rfl
  | cons part ps ih =>
    have hrest : NamesUnmarked d ps := fun cs hcs => h cs (List.mem_cons_of_mem _ hcs)
    rw [List.flatMap_cons]
    cases part with
    | name cs =>
      rw [Dialect.spelled, fillMarks_append (h cs List.mem_cons_self), String.ofList_toList,
        ih hrest, Dialect.fillBetween]
    | char c =>
      by_cases hc : c = '?'
      · subst hc
        cases bs with
        | nil => simp [Dialect.spelled, fillMarks, Dialect.fillBetween, ih hrest]
        | cons b rest =>
          simp [Dialect.spelled, fillMarks, Dialect.fillBetween, ih hrest, Dialect.bound]
      · have hfill : d.fillBetween (.char c :: ps) bs =
            String.singleton c ++ d.fillBetween ps bs := by
          rw [Dialect.fillBetween]
          intro b rest hmark
          exact absurd hmark hc
        rw [hfill, Dialect.spelled, List.singleton_append, fillMarks_of_ne hc, ih hrest]

end Between

/-- Filling marks after names are in quotes reads verbatim SQL as it stands exactly if the quoted
names hold no marks. A mark in a name asks for a value, which is then put inside of the quotes. -/
theorem verbatim_eq_verbatimBetween_iff (d : Dialect) (expression : String) :
    (∀ bs, d.verbatim ⟨expression, bs⟩ = d.verbatimBetween ⟨expression, bs⟩) ↔
      NamesUnmarked d (parts 0 expression.toList) := by
  have hcount : (d.quoteMarkers expression).toList.count '?' =
      ((parts 0 expression.toList).flatMap d.spelled).count '?' := by
    rw [Dialect.quoteMarkers_eq, String.toList_ofList]
  constructor
  · intro h
    rw [← count_eq_count_spelled_iff]
    by_contra hdiffer
    -- As many values as marks between names are accepted by one reading alone.
    have hsame := h (List.replicate ((parts 0 expression.toList).count (.char '?')) (.raw ""))
    rw [Dialect.verbatim, fill, Dialect.verbatimBetween, hcount, List.length_replicate,
      if_neg (Ne.symm hdiffer), if_pos rfl] at hsame
    cases hsame
  · intro h bs
    have hequal := count_eq_count_spelled_iff.mpr h
    rw [Dialect.verbatim, fill, Dialect.verbatimBetween, hcount, ← hequal]
    split
    · rw [Dialect.quoteMarkers_eq, String.toList_ofList, fillMarks_spelled h]
    · rfl

/-- A query of one column. -/
def columnOf (c : Column Query) : Query :=
  .ofBlock ⟨[⟨"select", wildcard, .column c⟩], .select, false, none⟩

set_option maxRecDepth 20000 in
/-- The mark in a marked name is counted, and filled inside of the quotes; in the same name of a
plain column it is not. -/
theorem columnOf_marked_name :
    (columnOf (.verbatim ⟨"[a?]", []⟩)).compile ⟨.sqlite, {}⟩ = .error (.bindingCount "\"a?\"" 0) ∧
      (columnOf (.verbatim ⟨"[a?]", [.value (.int 1)]⟩)).compile ⟨.postgres, {}⟩ =
        .ok ⟨"SELECT \"a%s\"", [.int 1]⟩ ∧
      (columnOf (.named "a?")).compile ⟨.sqlite, {}⟩ = .ok ⟨"SELECT \"a?\"", []⟩ ∧
      Dialect.sqlite.verbatimBetween ⟨"[a?]", []⟩ = .ok ⟨"\"a?\"", []⟩ := by
  refine ⟨by rfl, by rfl, by rfl, by rfl⟩

end PolySql
