import PolySql.Proofs.Columns

/-!
The clause that takes effect as the first of a row: the seen clauses that are scoped to the engine
itself, and behind them all that are seen. Main statements: what a clause changes of the lookups
that is put in between others, and that a clause in effect stays so when others are left out.
-/

namespace PolySql

section Row

variable {α : Type} {component engine : String}

/-- The clauses of a component that are scoped to the engine itself. -/
def owned (cs : List (Scoped α)) (component engine : String) : List (Scoped α) :=
  (visible cs component engine).filter (·.engine == engine)

theorem effective_eq_head? (cs : List (Scoped α)) :
    effective cs component engine =
      (owned cs component engine ++ visible cs component engine).head? := by
  rw [effective, List.head?_append, owned, List.head?_filter]

theorem owned_append (cs ds : List (Scoped α)) :
    owned (cs ++ ds) component engine =
      owned cs component engine ++ owned ds component engine := by
  rw [owned, visible_append, List.filter_append, owned, owned]

theorem owned_eq_nil_iff {cs : List (Scoped α)} :
    owned cs component engine = [] ↔ ∀ c ∈ cs, c.component = component → c.engine ≠ engine := by
  simp only [owned, visible, List.filter_filter, List.filter_eq_nil_iff]
  refine forall₂_congr fun c _ => ?_
  simp only [Scoped.appliesTo]
  grind

theorem visible_eq_nil_iff {cs : List (Scoped α)} :
    visible cs component engine = [] ↔
      ∀ c ∈ cs, c.component = component → ¬ c.appliesTo engine := by
  simp [visible]

theorem visible_cons (x : Scoped α) (cs : List (Scoped α)) :
    visible (x :: cs) component engine =
      if x.component = component ∧ x.appliesTo engine then x :: visible cs component engine
      else visible cs component engine := by
  simp [visible, List.filter_cons]

/-- A clause in effect stays so when others are left out. -/
theorem effective_of_filter {cs ds : List (Scoped α)} {c : Scoped α} {p : Scoped α → Bool}
    (hds : visible ds component engine = (visible cs component engine).filter p)
    (h : effective cs component engine = some c) (hc : p c) :
    effective ds component engine = some c := by
  have howned : owned ds component engine = (owned cs component engine).filter p := by
    rw [owned, owned, hds, List.filter_filter, List.filter_filter]
    exact List.filter_congr fun _ _ => Bool.and_comm _ _
  rw [effective_eq_head?] at h ⊢
  obtain ⟨rest, hrow⟩ := List.head?_eq_some_iff.mp h
  rw [howned, hds, ← List.filter_append, hrow, List.filter_cons_of_pos hc]
  rfl

end Row

section Insertion

variable {α : Type} (component engine : String) (pre : List (Scoped α)) (x : Scoped α)
  (post : List (Scoped α))

/-- Whether a clause takes effect that stands between others: it is the first of its component that
is scoped to the engine, or there is none such and it is a wildcard in front of all that are seen.
Asked for the wildcard itself, every wildcard is scoped to the engine. -/
def TakesEffect : Prop :=
  (x.component = component ∧ x.appliesTo engine) ∧
    ((x.engine = engine ∧ ∀ c ∈ pre, c.component = component → c.engine ≠ engine) ∨
      (x.engine = wildcard ∧ (∀ c ∈ pre ++ post, c.component = component → c.engine ≠ engine) ∧
        ∀ c ∈ pre, c.component = component → ¬ c.appliesTo engine))

instance : Decidable (TakesEffect component engine pre x post) :=
  inferInstanceAs (Decidable (_ ∧ _))

variable {component engine pre x post}

theorem takesEffect_iff :
    TakesEffect component engine pre x post ↔
      (x.component = component ∧ x.appliesTo engine) ∧
        ((x.engine = engine ∧ owned pre component engine = []) ∨
          (x.engine = wildcard ∧ owned (pre ++ post) component engine = [] ∧
            visible pre component engine = [])) := by
  rw [owned_eq_nil_iff, owned_eq_nil_iff, visible_eq_nil_iff]
  exact Iff.rfl

theorem effective_insertion :
    effective (pre ++ x :: post) component engine =
      if TakesEffect component engine pre x post then some x
      else effective (pre ++ post) component engine := by
  simp only [effective_eq_head?, takesEffect_iff, owned_append, visible_append, visible_cons]
  by_cases hseen : x.component = component ∧ x.appliesTo engine
  · by_cases hown : x.engine = engine
    · have howned : owned (x :: post) component engine = x :: owned post component engine := by
        simp [owned, visible_cons, hseen, hown]
      cases owned pre component engine with
      | nil => simp [hseen, hown, howned]
      | cons d rest => simp [hseen, hown]
    · have howned : owned (x :: post) component engine = owned post component engine := by
        simp [owned, visible_cons, hseen, hown]
      have hwild : x.engine = wildcard := by
        simpa [Scoped.appliesTo, hown] using hseen.2
      rw [howned]
      -- Clauses scoped to the engine come first, and among the others those in front.
      cases owned pre component engine ++ owned post component engine with
      | cons d rest => simp [hseen, hown]
      | nil =>
        cases visible pre component engine with
        | nil => simp [hseen, hwild]
        | cons d rest => simp [hseen, hown]
  · have howned : owned (x :: post) component engine = owned post component engine := by
      rw [owned, visible_cons, if_neg hseen, owned]
    simp [hseen, howned]

end Insertion

end PolySql
