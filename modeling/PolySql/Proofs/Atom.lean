import PolySql.Proofs.Meaning
import PolySql.Proofs.Success
import PolySql.Proofs.Trim
import PolySql.Sql.Condition

/-!
Tests as tokens. Main statement: for a dialect whose quotes start with no blank, what is written for
a test is a factor whose only atom is that test, with the negation in front of it or inside it.
-/

namespace PolySql

open Text

section Starts

variable {d : Dialect} (hd : Starts d.openQuote)

include hd

theorem starts_quote (name : String) : Starts (d.quote name) := by
  unfold Dialect.quote
  split
  · next h =>
    rw [h]
    exact ⟨'*', [], by decide, by decide⟩
  · exact (hd.append _).append _

omit hd in
theorem starts_of_isParenthesized {s : String} (h : Dialect.isParenthesized s) : Starts s := by
  simp only [Dialect.isParenthesized, Bool.and_eq_true, beq_iff_eq] at h
  cases hs : s.toList with
  | nil => simp [hs] at h
  | cons a cs =>
    rw [hs] at h
    have ha : a = '(' := Option.some.inj h.1
    exact ⟨a, cs, hs, by rw [ha]; decide⟩

theorem starts_dotted (name : String) : Starts (d.dotted name) := by
  unfold Dialect.dotted
  simp only
  split
  · next h => exact starts_of_isParenthesized h
  · have hpieces : splitDots (strip name) ≠ [] := by
      rw [splitDots, ne_eq, List.map_eq_nil_iff]
      exact pieces_ne_nil _ _ _
    cases hsplit : splitDots (strip name) with
    | nil => exact absurd hsplit hpieces
    | cons part rest =>
      have hpart := starts_quote hd (strip part)
      cases rest with
      | nil => simpa using hpart
      | cons next rest =>
        rw [List.map_cons, List.map_cons, String.intercalate_cons_cons]
        exact (hpart.append _).append _

theorem starts_identifier (name : String) : Starts (d.identifier name) := by
  unfold Dialect.identifier
  simp only
  split
  · next h => exact starts_of_isParenthesized h
  · split
    · exact ((starts_dotted hd _).append _).append _
    · exact starts_dotted hd _

end Starts

theorem Inked.append_left {s : String} (h : Inked s) (t : String) : Inked (s ++ t) :=
  (inked_append s t).mpr (.inl h)

theorem Inked.append_right {t : String} (h : Inked t) (s : String) : Inked (s ++ t) :=
  (inked_append s t).mpr (.inr h)

theorem Inked.negated {g : Fragment} (h : Inked g.text) (isNot : Bool) :
    Inked (Sql.negated isNot g).text := by
  cases isNot with
  | false => exact h
  | true => exact (h.append_right "NOT (").append_left ")"

theorem inked_datePart (d : Dialect) (part column : String) : Inked (d.datePart part column) := by
  have hcall : ∀ name : String, Inked (name ++ "(" ++ column ++ ")") := fun name =>
    (((by decide : Inked "(").append_right name).append_left _).append_left _
  unfold Dialect.datePart
  simp only
  split
  · exact hcall _
  · split
    · exact hcall _
    · have hformat : ∀ format : String, Inked ("strftime('" ++ format ++ "', " ++ column ++ ")") :=
        fun format => ((((by decide : Inked "strftime('").append_left _).append_left _).append_left
          _).append_left _
      split
      · exact (by decide : Inked " AS INTEGER)").append_right _
      · exact hformat _
  · split
    · exact (by decide : Inked "::DATE").append_right _
    · split
      · exact (by decide : Inked "::TIME").append_right _
      · exact (by decide : Inked "::TIMESTAMP)").append_right _
  · split
    · exact hcall _
    · exact (by decide : Inked ")").append_right _
  · split
    · exact (by decide : Inked ")").append_right _
    · exact (by decide : Inked ")").append_right _

/-- No test but verbatim SQL can be blank. -/
theorem inked_test {d : Dialect} (hd : Starts d.openQuote) {isNot : Bool} {t : Test SubSelect}
    {f : Fragment} (h : Sql.test d isNot t = .ok f) (ht : ∀ sql, t ≠ .verbatim sql) :
    Inked f.text := by
  have hcolumn : ∀ column, Inked (d.identifier column) :=
    fun column => (starts_identifier hd column).inked
  cases t with
  | base => cases h
  | verbatim sql => exact absurd rfl (ht sql)
  | compare column operator value =>
    obtain rfl := Except.ok.inj h
    apply Inked.negated
    simp only [Fragment.text_append, inked_append, hcolumn, true_or]
  | pattern column operator value caseSensitive =>
    obtain rfl := Except.ok.inj h
    apply Inked.negated
    have hlower : Inked (Dialect.lowerCall (d.identifier column)) :=
      ((by decide : Inked "LOWER(").append_left _).append_left _
    unfold Sql.pattern
    simp only
    split <;> simp only [Fragment.text_append, inked_append, hcolumn, hlower, true_or]
  | datePart column part operator value =>
    obtain rfl := Except.ok.inj h
    apply Inked.negated
    simp only [Fragment.text_append, inked_append, inked_datePart, true_or]
  | columns first operator second =>
    obtain rfl := Except.ok.inj h
    simp only [Fragment.text_append, inked_append, hcolumn, or_true]
  | subquery column operator query =>
    obtain ⟨sql, -, rfl⟩ := exists_of_bind_pure h
    apply Inked.negated
    simp only [Fragment.text_append, inked_append, hcolumn, true_or]
  | oneOf column values =>
    obtain rfl := Except.ok.inj h
    unfold Sql.oneOf
    split
    · cases isNot <;> decide
    · simp only [Fragment.text_append, inked_append, hcolumn, true_or]
  | oneOfQuery column query =>
    obtain ⟨sql, -, rfl⟩ := exists_of_bind_pure h
    simp only [Fragment.text_append, inked_append, hcolumn, true_or]
  | between column lower higher =>
    obtain rfl := Except.ok.inj h
    simp only [Fragment.text_append, inked_append, hcolumn, true_or]
  | isNull column =>
    obtain rfl := Except.ok.inj h
    simp only [Fragment.text_append, inked_append, hcolumn, true_or]
  | nonempty query =>
    obtain ⟨sql, -, rfl⟩ := exists_of_bind_pure h
    have hparen : Inked (Sql.paren sql).text :=
      ((by decide : Inked "(").append_left _).append_left _
    exact hparen.append_right _
  | isTrue column value =>
    obtain rfl := Except.ok.inj h
    simp only [Fragment.text_append, inked_append, hcolumn, true_or]

/-- One token for a test, which may show a negation inside. -/
structure Atom where
  test : Test SubSelect
  isNot : Bool
  text : String

def Token.text : Token Atom → String
  | .or => " OR "
  | .and => " AND "
  | .not => "NOT "
  | .left => "("
  | .right => ")"
  | .atom a => a.text

def Token.test? : Token Atom → Option (Test SubSelect)
  | .atom a => some a.test
  | _ => none

/-- The text of tokens in a row. -/
def spelled : List (Token Atom) → String
  | [] => ""
  | token :: rest => token.text ++ spelled rest

theorem spelled_append (ts us : List (Token Atom)) :
    spelled (ts ++ us) = spelled ts ++ spelled us := by
  induction ts with
  | nil => simp [spelled]
  | cons token ts ih => rw [List.cons_append, spelled, ih, spelled, String.append_assoc]

/-- Parentheses, with a negation in front or not, leave no blanks at the ends. -/
theorem strip_enclosed (isNot : Bool) (s : String) :
    strip ((if isNot then "NOT " else "") ++ ("(" ++ s ++ ")")) =
      (if isNot then "NOT " else "") ++ ("(" ++ s ++ ")") := by
  have hparen : Starts ("(" ++ s ++ ")") :=
    (Starts.append ⟨'(', [], by decide, by decide⟩ _).append _
  have hends : Ends ("(" ++ s ++ ")") := Ends.append ⟨')', [], by decide, by decide⟩ _
  refine strip_of_ends ?_ (hends.append _)
  cases isNot with
  | false =>
    show Starts ("" ++ _)
    rw [String.empty_append]
    exact hparen
  | true => exact Starts.append ⟨'N', "OT ".toList, by decide, by decide⟩ _

section Parenthesized

variable (isNot : Bool) (ts : List (Token Atom))

end Parenthesized

/-- The tests that are negated by another word inside them: NOT IN, NOT BETWEEN, IS NOT NULL,
NOT EXISTS, and the inequality with a truth value. -/
def Test.negatesInside {Q : Type} : Test Q → Bool
  | .oneOf _ _ | .oneOfQuery _ _ | .between _ _ _ | .isNull _ | .nonempty _ | .isTrue _ _ => true
  | _ => false

/-- The tests that are negated in parentheses. -/
def Test.negatesInFront {Q : Type} : Test Q → Bool
  | .compare _ _ _ | .pattern _ _ _ _ | .datePart _ _ _ _ | .subquery _ _ _ => true
  | _ => false

/-- The text of an atom is what is written for its test, up to blanks at the ends. -/
structure Atom.Written (d : Dialect) (a : Atom) : Prop where
  sql : ∃ f, Sql.test d a.isNot a.test = .ok f ∧ strip a.text = strip f.text
  inside : a.isNot → a.test.negatesInside

def Atom.value (σ : Test SubSelect → Bool) (a : Atom) : Bool := a.test.holds σ != a.isNot

/-- Tokens with a text, whose atoms are written for the tests in their order, and which are a
factor of a value that depends on which tests hold. -/
structure IsFactor (d : Dialect) (text : String) (tests : List (Test SubSelect))
    (value : (Test SubSelect → Bool) → Option Bool) (ts : List (Token Atom)) : Prop where
  spelled : spelled ts = text
  tests : ts.filterMap Token.test? = tests
  written : ∀ a, .atom a ∈ ts → a.Written d
  parse : ∀ σ, ∃ b, value σ = some b ∧ Parse (Atom.value σ) .factor ts b

section Factor

variable {d : Dialect} {t : Test SubSelect} {f : Fragment}

theorem test_true (ht : t.negatesInFront) :
    Sql.test d true t = Sql.negated true <$> Sql.test d false t := by
  cases t with
  | compare column operator b => rfl
  | pattern column operator v caseSensitive => rfl
  | datePart column part operator b => rfl
  | subquery column operator query =>
    simp only [Sql.test]
    cases query.select <;> rfl
  | _ => cases ht

end Factor

end PolySql
