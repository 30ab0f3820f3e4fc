import PolySql.Proofs.Alike.Clause

/-!
Lookup in alike lists of clauses. Main statements: the visible clauses of a component are alike at
the cost of that component, and so are the effective ones.
-/

namespace PolySql

open Text

section Option

variable {α β γ δ : Type} {r : α → β → Prop} {s : γ → δ → Prop}

theorem rel_or {a a' : Option α} {b b' : Option β} (h : Option.Rel r a b)
    (h' : Option.Rel r a' b') : Option.Rel r (a.or a') (b.or b') := by
  cases h with
  | some h => exact .some h
  | none => exact h'

theorem rel_map {a : Option α} {b : Option β} {f : α → γ} {g : β → δ} (h : Option.Rel r a b)
    (hf : ∀ a b, r a b → s (f a) (g b)) : Option.Rel s (a.map f) (b.map g) := by
  cases h with
  | some h => exact .some (hf _ _ h)
  | none => exact .none

end Option

section Effective

variable {α β : Type} {r : ℕ → α → β → Prop} {n : ℕ}

theorem find?_alike {as : List (Scoped α)} {bs : List (Scoped β)} {k : ℕ} (engine : String)
    (h : Along (Scoped.Alike r) k as bs) (hk : k ≤ n) :
    Option.Rel (fun a b => ∃ m ≤ n, Scoped.Alike r m a b) (as.find? (·.engine == engine))
      (bs.find? (·.engine == engine)) := by
  induction h with
  | nil => exact .none
  | cons head tail le ih =>
    have hengine := head.engine_eq
    simp only [List.find?_cons, ← hengine]
    split
    · exact .some ⟨_, (le_of_add_le_left le).trans hk, head⟩
    · exact ih ((le_of_add_le_right le).trans hk)

theorem head?_alike {as : List (Scoped α)} {bs : List (Scoped β)}
    (h : Along (Scoped.Alike r) n as bs) :
    Option.Rel (fun a b => ∃ m ≤ n, Scoped.Alike r m a b) as.head? bs.head? := by
  cases h with
  | nil => exact .none
  | cons head tail le => exact .some ⟨_, le_of_add_le_left le, head⟩

theorem effectiveItem_alike {cs : List (Scoped α)} {cs' : List (Scoped β)}
    {component engine : String}
    (h : Along (Scoped.Alike r) n (visible cs component engine) (visible cs' component engine)) :
    Option.Rel (fun a b => ∃ m ≤ n, r m a b) (effectiveItem cs component engine)
      (effectiveItem cs' component engine) := by
  refine rel_map (rel_or (find?_alike engine h n.le_refl) (head?_alike h)) ?_
  rintro c c' ⟨m, hm, hc⟩
  exact ⟨m, hm, hc.item⟩

theorem anyVisible_alike {cs : List (Scoped α)} {cs' : List (Scoped β)} {component engine : String}
    (h : Along (Scoped.Alike r) n (visible cs component engine) (visible cs' component engine)) :
    anyVisible cs component engine = anyVisible cs' component engine := by
  have hlength := h.length_eq
  rw [Bool.eq_iff_iff, anyVisible_iff, anyVisible_iff, ne_eq, ne_eq, ← List.length_eq_zero_iff,
    ← List.length_eq_zero_iff, hlength]

end Effective

/-- Clauses in the same scope that fit if the target sees them, at the cost of their component. -/
structure Clause.Seen (x : Exchange) (p : Content) (t : Target)
    (sql : ℕ → Fragment → Fragment → Prop) (w : String → ℕ) (c c' : Clause SubSelect) : Prop where
  component : c.component = c'.component
  engine : c.engine = c'.engine
  fits : c.appliesTo t.engine → c.item.Fits x p sql (w c.component) c'.item

section Seen

variable {x : Exchange} {p : Content} {t : Target} {sql : ℕ → Fragment → Fragment → Prop}
  {w : String → ℕ} {cs cs' : List (Clause SubSelect)}

theorem visible_alike (h : Along (Clause.Seen x p t sql) w cs cs') (component : String) :
    Along (Scoped.Alike (Body.Fits x p sql)) (w component) (visible cs component t.engine)
      (visible cs' component t.engine) := by
  induction h with
  | nil => exact .nil
  | @cons w₁ w₂ w c c' cs cs' head tail le ih =>
    have hle : w₁ component + w₂ component ≤ w component := le component
    have happlies : c'.appliesTo t.engine = c.appliesTo t.engine := by
      simp only [Scoped.appliesTo, head.engine]
    simp only [visible, List.filter_cons, ← head.component, happlies]
    split
    · next hseen =>
      simp only [Bool.and_eq_true, beq_iff_eq] at hseen
      obtain ⟨rfl, hseen⟩ := hseen
      refine .cons ?_ ih hle
      exact .of_eq head.component head.engine (head.fits hseen)
    · exact ih.mono (le_of_add_le_right hle)

end Seen

end PolySql
