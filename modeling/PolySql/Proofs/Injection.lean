import PolySql.Proofs.Alike.Statement

/-!
Bound values stay out of the text. Main statement: queries that differ only in what they bind
compile to the same text and bind as many values, or fail with the same error.
-/

namespace PolySql

/-- Any value may stand for any other, but no SQL text for a value. -/
def Exchange.values : Exchange := ⟨fun _ _ => True, fun _ _ => False⟩

/-- Queries of one shape and with the same texts everywhere. They may differ in the values of bound
positions, in the texts of patterns, and in numbers of rows that are positive in both or in none. -/
def Query.ValueEquivalent (q q' : Query) : Prop := q.Alike .values 0 q'

/-- Equal texts, which bind equally many values. -/
def Fragment.SameText (f f' : Fragment) : Prop :=
  f.text = f'.text ∧ f.bindings.length = f'.bindings.length

namespace Fragment.SameText

theorem refl (f : Fragment) : f.SameText f := ⟨rfl, rfl⟩

theorem append {f f' g g' : Fragment} (hf : f.SameText f') (hg : g.SameText g') :
    (f ++ g).SameText (f' ++ g') := by
  refine ⟨?_, ?_⟩
  · rw [text_append, text_append, hf.1, hg.1]
  · rw [bindings_append, bindings_append, List.length_append, List.length_append, hf.2, hg.2]

theorem strip {f f' : Fragment} (h : f.SameText f') : f.strip.SameText f'.strip := by
  refine ⟨?_, h.2⟩
  show Text.strip f.text = Text.strip f'.text
  rw [h.1]

end Fragment.SameText

theorem lawful_sameText (t : Target) :
    Lawful .values .all t fun _ f f' => f.SameText f' where
  alphabet := .all t.dialect
  sourceKeySuffix := over_all _
  targetKey := over_all _
  aggregateAlias := over_all _
  text _ := .refl _
  append hf hg := hf.append hg
  strip h := h.strip
  blank h := by rw [h.1]
  mono h _ := h
  value _ _ := ⟨rfl, rfl⟩
  fill h _ := h.elim

/-- No value reaches the text, and none decides what is written or refused. -/
theorem compile_of_valueEquivalent (t : Target) {q q' : Query} (h : q.ValueEquivalent q') :
    Agree Fragment.SameText (q.compile t) (q'.compile t) :=
  h.compile (lawful_sameText t) q.within_all

/-- The users of a name, up to a number of rows, and those that a nested query of it finds. -/
def usersNamed (name : Json) (rows : Int) : Query :=
  let named (found : Test Query) : Query :=
    .ofBlock ⟨[⟨"from", wildcard, .table (.named "users")⟩,
      ⟨"where", wildcard, .condition (.test ⟨false, false⟩ found)⟩,
      ⟨"limit", wildcard, .window ⟨some rows, none⟩⟩], .select, false, none⟩
  named (.oneOfQuery "id" (named (.compare "name" "=" (.value name))))

theorem usersNamed_sameText :
    (usersNamed (.str "Ada") 5).ValueEquivalent (usersNamed (.str "' OR 1 = 1 --") 900) ∧
      Agree Fragment.SameText ((usersNamed (.str "Ada") 5).compile ⟨.sqlite, {}⟩)
        ((usersNamed (.str "' OR 1 = 1 --") 900).compile ⟨.sqlite, {}⟩) := by
  have hwindow : (Window.mk (some 5) none).Alike .values (Window.mk (some 900) none) :=
    ⟨.some trivial, .none⟩
  have hnamed : ∀ {f f' : Test Query} {ρ : ℕ → Query → Query → Prop}, f.Alike .values ρ 0 f' →
      (Block.mk [⟨"from", wildcard, .table (.named "users")⟩,
        ⟨"where", wildcard, .condition (.test ⟨false, false⟩ f)⟩,
        ⟨"limit", wildcard, .window ⟨some 5, none⟩⟩] .select false none).Alike .values ρ 0
      (Block.mk [⟨"from", wildcard, .table (.named "users")⟩,
        ⟨"where", wildcard, .condition (.test ⟨false, false⟩ f')⟩,
        ⟨"limit", wildcard, .window ⟨some 900, none⟩⟩] .select false none) := by
    intro f f' ρ hf
    refine ⟨?_, rfl, rfl, rfl⟩
    exact .cons (.mk (.table .named)) (.cons (.mk (.condition (.test hf))) (.cons
      (.mk (.window hwindow)) (.nil (k := 0)) (m := 0) le_rfl) (m := 0) le_rfl) (m := 0) le_rfl
  have h : (usersNamed (.str "Ada") 5).ValueEquivalent (usersNamed (.str "' OR 1 = 1 --") 900) := by
    refine .mk (Query.Alike .values) id (hnamed (.oneOfQuery ?_))
    exact .mk (Query.Alike .values) id (hnamed (.compare (.value trivial)))
  exact ⟨h, compile_of_valueEquivalent ⟨.sqlite, {}⟩ h⟩

end PolySql
