import PolySql.Sql.Statement

/-!
What fragments bind. Main statements: verbatim SQL binds the values that fill its marks, a list of
conditions those of its terms, and a window its two numbers, around or behind what it limits.
-/

namespace PolySql

/-- What a bound position binds. -/
def Bound.values : Bound → List Json
  | .value v => [v]
  | .raw _ => []

section Bound

variable (placeholder : String)

@[simp] theorem bindings_fragment (b : Bound) : (b.fragment placeholder).bindings = b.values := by
  cases b <;> rfl

@[simp] theorem bindings_bindAll (bs : List Bound) :
    (bindAll placeholder bs).bindings = bs.flatMap Bound.values := by
  simp [bindAll, Fragment.bindings_separated, List.flatMap_map]

theorem bindings_fillMarks {cs : List Char} {bs : List Bound} (h : cs.count '?' = bs.length) :
    (fillMarks placeholder cs bs).bindings = bs.flatMap Bound.values := by
  induction cs generalizing bs with
  | nil =>
    rw [List.count_nil] at h
    rw [List.eq_nil_of_length_eq_zero h.symm]
    rfl
  | cons c cs ih =>
    by_cases hc : c = '?'
    · subst hc
      rw [List.count_cons_self] at h
      -- There is a value for every mark, so the first one belongs to this mark.
      cases bs with
      | nil => cases h
      | cons b rest => simp [fillMarks, ih (Nat.succ.inj h)]
    · rw [List.count_cons_of_ne hc] at h
      simp [fillMarks, hc, ih h]

end Bound

section Condition

@[simp] theorem bindings_paren (f : Fragment) : (Sql.paren f).bindings = f.bindings := by
  simp [Sql.paren]

@[simp] theorem bindings_negated (isNot : Bool) (f : Fragment) :
    (Sql.negated isNot f).bindings = f.bindings := by
  cases isNot <;> simp [Sql.negated]

theorem bindings_connectFrom (lead : String) (started : Bool) (terms : List Sql.Term) :
    (Sql.connectFrom lead started terms).bindings = terms.flatMap (·.sql.bindings) := by
  induction terms generalizing started with
  | nil => rfl
  | cons term rest ih =>
    rw [Sql.connectFrom]
    split <;> simp [ih]

theorem bindings_connect (lead : String) (terms : List Sql.Term) :
    (Sql.connect lead terms).bindings = terms.flatMap (·.sql.bindings) :=
  bindings_connectFrom lead false terms

theorem bindings_group (isNot : Bool) (f : Fragment) :
    (Sql.group isNot f).bindings = f.bindings := by
  unfold Sql.group
  split <;> simp

end Condition

namespace Dialect

variable (d : Dialect)

@[simp] theorem bindings_bound (b : Bound) : (d.bound b).bindings = b.values :=
  bindings_fragment d.placeholder b

theorem bindings_oneOf (isNot : Bool) (column : String) (values : List Bound) :
    (Sql.oneOf d isNot column values).bindings = values.flatMap Bound.values := by
  unfold Sql.oneOf
  split
  · next h =>
    rw [List.isEmpty_iff.mp h]
    cases isNot <;> rfl
  · simp

/-- What a select binds whose window is `w` and whose clauses bind `vs`. -/
def windowed (w : Window) (vs : List Json) : List Json :=
  ((d.top w).getD ∅).bindings ++ vs ++ ((d.limit w).getD ∅).bindings ++
    ((d.offset w).getD ∅).bindings

/-- A number, as it is bound. -/
def counted (n : Option Int) : List Json := n.toList.map Json.int

theorem windowed_of_ne {d : Dialect} (h : d.flavor ≠ .sqlServer) (w : Window) (vs : List Json) :
    d.windowed w vs = vs ++ counted w.take? ++ counted w.skip? := by
  unfold windowed top limit offset
  generalize w.take? = take
  generalize w.skip? = skip
  cases hd : d.flavor <;> first
    | exact absurd hd h
    | cases take <;> cases skip <;> simp [counted, bindCount, bind]

/-- Without rows to take, the flavors do not differ in what they bind. -/
theorem windowed_of_take?_eq_none {w : Window} (h : w.take? = none) (vs : List Json) :
    d.windowed w vs = vs ++ counted w.skip? := by
  unfold windowed top limit offset
  rw [h]
  generalize w.skip? = skip
  cases d.flavor <;> cases skip <;> simp [counted, bindCount, bind]

theorem windowed_perm (w : Window) (vs : List Json) :
    (d.windowed w vs).Perm (vs ++ counted w.take? ++ counted w.skip?) := by
  by_cases hd : d.flavor = .sqlServer
  · unfold windowed top limit offset
    rw [hd]
    cases w.take? with
    | none => cases w.skip? <;> simp [counted, bindCount, bind]
    | some n =>
      cases w.skip? with
      | none => simpa [counted, bindCount, bind] using (List.perm_append_singleton _ vs).symm
      | some k => simpa [counted, bindCount, bind] using List.Perm.append_left vs (.swap _ _ [])
  · rw [windowed_of_ne hd]

end Dialect

end PolySql
