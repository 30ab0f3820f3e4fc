import PolySql.Proofs.Atom

/-!
Negated conditions. Main statement: the flag negates every condition but verbatim SQL, each kind in
a form of its own, and changes nothing of what is bound; verbatim SQL does not show it.
-/

namespace PolySql

open Text

section Forms

variable {Q : Type}

/-- The condition with its negation set or taken away. -/
def Condition.withNot (isNot : Bool) : Condition Q → Condition Q
  | .test flags t => .test ⟨flags.isOr, isNot⟩ t
  | .group flags members => .group ⟨flags.isOr, isNot⟩ members

def Condition.IsVerbatim (c : Condition Q) : Prop := ∃ flags sql, c = .test flags (.verbatim sql)

/-- What stands in front of the word that a negation replaces. -/
def Test.left (d : Dialect) : Test Q → String
  | .oneOf column _ | .oneOfQuery column _ | .between column _ _ | .isNull column
  | .isTrue column _ => d.identifier column
  | _ => ""

/-- The word of a test that is negated inside, or its opposite. -/
def Test.word (isNot : Bool) : Test Q → String
  | .oneOf _ _ | .oneOfQuery _ _ => if isNot then " NOT IN " else " IN "
  | .between _ _ _ => if isNot then " NOT BETWEEN " else " BETWEEN "
  | .isNull _ => if isNot then " IS NOT NULL" else " IS NULL"
  | .nonempty _ => if isNot then "NOT EXISTS " else "EXISTS "
  | .isTrue _ _ => if isNot then " != " else " = "
  | _ => ""

theorem Test.word_ne (t : Test Q) (h : t.negatesInside) : t.word true ≠ t.word false := by
  cases t <;> simp_all [Test.word, Test.negatesInside]

end Forms

/-- The second text is the negation of the first one, in the form that the kind of condition has:
NOT around it or in front of it, the opposite word inside, or the opposite constant. -/
inductive Opposite (d : Dialect) : Condition SubSelect → String → String → Prop
  | around {flags : Flags} {t : Test SubSelect} (s : String) (h : t.negatesInFront) :
    Opposite d (.test flags t) s ("NOT (" ++ s ++ ")")
  | columns {flags : Flags} {first operator second : String} (s : String) :
    Opposite d (.test flags (.columns first operator second)) s ("NOT " ++ s)
  | group {flags : Flags} {members : List (Scoped (Condition SubSelect))} (s : String) :
    Opposite d (.group flags members) ("(" ++ s ++ ")") ("NOT " ++ ("(" ++ s ++ ")"))
  | inside {flags : Flags} {t : Test SubSelect} (rest : String) (h : t.negatesInside) :
    Opposite d (.test flags t) (t.left d ++ t.word false ++ rest) (t.left d ++ t.word true ++ rest)
  | constant {flags : Flags} {column : String} :
    Opposite d (.test flags (.oneOf column [])) "1 = 0" "1 = 1"

variable {d : Dialect}

/-- A negation is another text: it is longer, or another constant. -/
theorem Opposite.ne {c : Condition SubSelect} {s s' : String} (h : Opposite d c s s') :
    s' ≠ s := by
  have hfront : ∀ (pre s post : String), 0 < pre.length → pre ++ s ++ post ≠ s := by
    intro pre s post hpre hsame
    have hlength := congrArg String.length hsame
    rw [String.length_append, String.length_append] at hlength
    omega
  cases h with
  | constant => decide
  | around _ _ => exact hfront "NOT (" s ")" (by decide)
  | columns _ =>
    have hne := hfront "NOT " s "" (by decide)
    rwa [String.append_empty] at hne
  | group s =>
    have hne := hfront "NOT " ("(" ++ s ++ ")") "" (by decide)
    rwa [String.append_empty] at hne
  | @inside flags t rest ht =>
    intro hsame
    exact t.word_ne ht (by simpa using hsame)

section Test

variable {t : Test SubSelect} {f : Fragment}

/-- A test that is negated inside shows the flag in one word only; a list without values is a
constant. -/
theorem test_inside (ht : t.negatesInside) (hlist : ∀ column, t ≠ .oneOf column []) :
    ∃ (x : Except CompileError Fragment) (rest : Fragment → Fragment), ∀ isNot,
      Sql.test d isNot t = x >>= fun f => .ok ((t.left d ++ t.word isNot : String) ++ rest f) := by
  have hwritten : ∀ {query : SubSelect} {f g : Fragment → Fragment}, (∀ sql, f sql = g sql) →
      (query.select >>= fun sql => pure (f sql)) = query.select >>= fun sql => .ok (g sql) := by
    intro query f g h
    exact congrArg (query.select >>= ·) (funext fun sql => congrArg Except.ok (h sql))
  cases t with
  | oneOf column values =>
    refine ⟨.ok (bindAll d.placeholder values), Sql.paren, fun isNot => congrArg Except.ok ?_⟩
    have hvalues : values.isEmpty = false := by
      cases values with
      | nil => exact absurd rfl (hlist column)
      | cons b rest => rfl
    rw [Sql.oneOf, hvalues]
    ext1 <;> simp [Test.left, Test.word]
  | oneOfQuery column query =>
    refine ⟨query.select, Sql.paren, fun isNot => hwritten fun sql => ?_⟩
    ext1 <;> simp [Test.left, Test.word]
  | between column lower higher =>
    refine ⟨.ok (d.bound lower ++ " AND " ++ d.bound higher), id, fun isNot =>
      congrArg Except.ok ?_⟩
    ext1 <;> simp [Test.left, Test.word, String.append_assoc]
  | isNull column =>
    refine ⟨.ok ∅, id, fun isNot => congrArg Except.ok ?_⟩
    ext1 <;> simp [Test.left, Test.word]
  | nonempty query =>
    refine ⟨query.select, Sql.paren, fun isNot => hwritten fun sql => ?_⟩
    ext1 <;> simp [Test.left, Test.word]
  | isTrue column value =>
    refine ⟨.ok (d.boolLiteral value : String), id, fun isNot => congrArg Except.ok ?_⟩
    ext1 <;> simp [Test.left, Test.word]
  | _ => cases ht

/-- A test is negated as its kind is, and binds the same. -/
theorem opposite_test (isOr : Bool) (h : Sql.test d false t = .ok f)
    (ht : ∀ sql, t ≠ .verbatim sql) :
    ∃ f', Sql.test d true t = .ok f' ∧ f'.bindings = f.bindings ∧
      Opposite d (.test ⟨isOr, false⟩ t) f.text f'.text := by
  by_cases hfront : t.negatesInFront
  · rw [test_true hfront, h]
    refine ⟨_, rfl, by simp [Sql.negated], .around f.text hfront⟩
  by_cases hinside : t.negatesInside
  · by_cases hlist : ∃ column, t = .oneOf column []
    · obtain ⟨column, rfl⟩ := hlist
      obtain rfl := Except.ok.inj h
      exact ⟨_, rfl, rfl, .constant⟩
    · obtain ⟨x, rest, hrest⟩ := test_inside hinside fun column hcolumn => hlist ⟨column, hcolumn⟩
      rw [hrest] at h
      obtain ⟨g, rfl, rfl⟩ := exists_of_bind_pure h
      exact ⟨_, hrest true, rfl, .inside (rest g).text hinside⟩
  · -- Two columns are left: there the negation stands in front.
    cases t with
    | base => cases h
    | verbatim sql => exact absurd rfl (ht sql)
    | columns first operator second =>
      obtain rfl := Except.ok.inj h
      refine ⟨_, rfl, by simp, ?_⟩
      have hnot := @Opposite.columns d ⟨isOr, false⟩ first operator second
        (d.identifier first ++ " " ++ operator ++ " " ++ d.identifier second)
      simpa [String.append_assoc] using hnot
    | _ => first | exact absurd rfl hfront | exact absurd rfl hinside

end Test

/-- A condition that is not blank is negated by its flag, in a text of its own with the same
bindings, exactly if it is no verbatim SQL. Verbatim SQL is the same with the flag and without. -/
theorem negated_unless_verbatim {c : Condition SubSelect} {f : Fragment}
    (h : Sql.condition d (c.withNot false) = .ok f) (hf : strip f.text ≠ "") :
    ∃ f', Sql.condition d (c.withNot true) = .ok f' ∧ f'.bindings = f.bindings ∧
      (¬ c.IsVerbatim → Opposite d (c.withNot false) f.text f'.text ∧ f'.text ≠ f.text) ∧
      (c.IsVerbatim → f' = f) := by
  cases c with
  | test flags t =>
    simp only [Condition.withNot, Sql.condition] at h ⊢
    by_cases hsql : ∃ sql, t = .verbatim sql
    · obtain ⟨sql, rfl⟩ := hsql
      exact ⟨f, h, rfl, fun hother => absurd ⟨flags, sql, rfl⟩ hother, fun _ => rfl⟩
    · obtain ⟨f', hf', hbindings, hopposite⟩ := opposite_test flags.isOr h
        fun sql ht => hsql ⟨sql, ht⟩
      refine ⟨f', hf', hbindings, fun _ => ⟨hopposite, hopposite.ne⟩, ?_⟩
      rintro ⟨flags', sql, heq⟩
      exact absurd ⟨sql, (Condition.test.inj heq).2⟩ hsql
  | group flags members =>
    simp only [Condition.withNot, Sql.condition] at h ⊢
    obtain ⟨terms, hterms, h⟩ := exists_of_bind_ok h
    obtain rfl := Except.ok.inj h
    rw [hterms]
    have hne : (Sql.connect "" terms).text ≠ "" := by
      intro hempty
      rw [Sql.group, if_pos hempty, hempty] at hf
      exact hf rfl
    refine ⟨_, rfl, ?_, fun _ => ?_, fun hsql => ?_⟩
    · simp [Sql.group, hne, Sql.paren]
    · have hopposite : Opposite d (.group ⟨flags.isOr, false⟩ members)
          (Sql.group false (Sql.connect "" terms)).text
          (Sql.group true (Sql.connect "" terms)).text := by
        simp only [Sql.group, if_neg hne]
        exact .group _
      exact ⟨hopposite, hopposite.ne⟩
    · obtain ⟨flags', sql, heq⟩ := hsql
      cases heq

/-- The accounts whose owner is in none of some places, or that have no owner. -/
def ownerElsewhere : Condition SubSelect :=
  .group ⟨true, false⟩
    [⟨"where", wildcard, .test ⟨false, true⟩ (.oneOf "owner" [.value (.int 1), .raw "me()"])⟩,
      ⟨"where", wildcard, .test ⟨true, false⟩ (.isNull "owner")⟩]

set_option maxRecDepth 20000 in
theorem ownerElsewhere_negated :
    Sql.condition .sqlite (ownerElsewhere.withNot false) =
        .ok ⟨"(\"owner\" NOT IN (?, me()) OR \"owner\" IS NULL)", [.int 1]⟩ ∧
      ∃ f', Sql.condition .sqlite (ownerElsewhere.withNot true) = .ok f' ∧
        f'.bindings = [.int 1] ∧
        Opposite .sqlite (ownerElsewhere.withNot false)
          "(\"owner\" NOT IN (?, me()) OR \"owner\" IS NULL)" f'.text := by
  have hplain : Sql.condition .sqlite (ownerElsewhere.withNot false) =
      .ok ⟨"(\"owner\" NOT IN (?, me()) OR \"owner\" IS NULL)", [.int 1]⟩ := by rfl
  have hother : ¬ ownerElsewhere.IsVerbatim := by
    rintro ⟨flags, sql, h⟩
    cases h
  obtain ⟨f', hf', hbindings, hopposite, -⟩ := negated_unless_verbatim hplain (by decide +kernel)
  exact ⟨hplain, f', hf', hbindings, (hopposite hother).1⟩

set_option maxRecDepth 20000 in
/-- The flag of verbatim SQL is not shown. -/
theorem verbatim_not_negated :
    Sql.condition .sqlite ((.test ⟨false, false⟩ (.verbatim ⟨"[age] > ?", [.value (.int 17)]⟩) :
        Condition SubSelect).withNot true) = .ok ⟨"\"age\" > ?", [.int 17]⟩ ∧
      Sql.condition .sqlite ((.test ⟨false, false⟩ (.verbatim ⟨"[age] > ?", [.value (.int 17)]⟩) :
        Condition SubSelect).withNot false) = .ok ⟨"\"age\" > ?", [.int 17]⟩ := by
  refine ⟨by rfl, by rfl⟩

end PolySql
