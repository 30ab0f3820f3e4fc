import Mathlib.Data.List.Forall2

/-!
Runs that succeed, and what they yield. Main statements: a run in steps succeeds if every step does,
and a run along a list if it does at every item, with one result for each; what steps yield is
yielded by the whole run.
-/

namespace PolySql

section Related

variable {α β : Type} {R : α → β → Prop} {as : List α} {bs : List β}

theorem exists_mem_of_forall₂ {a : α} (h : List.Forall₂ R as bs) (ha : a ∈ as) :
    ∃ b ∈ bs, R a b := by
  induction h with
  | nil => cases ha
  | cons hb _ ih =>
    rcases List.mem_cons.mp ha with rfl | ha
    · exact ⟨_, List.mem_cons_self, hb⟩
    · obtain ⟨b, hmem, hb⟩ := ih ha
      exact ⟨b, List.mem_cons_of_mem _ hmem, hb⟩

theorem forall_mem_iff_of_forall₂ {p : α → Prop} {q : β → Prop} (h : List.Forall₂ R as bs)
    (hR : ∀ a b, R a b → (p a ↔ q b)) : (∀ a ∈ as, p a) ↔ ∀ b ∈ bs, q b := by
  induction h with
  | nil => simp
  | cons hab _ ih => rw [List.forall_mem_cons, List.forall_mem_cons, hR _ _ hab, ih]

end Related

section Success

variable {ε α β : Type}

/-- A run that succeeds does so step by step. -/
theorem exists_of_bind_ok {x : Except ε α} {f : α → Except ε β} {b : β}
    (h : x >>= f = .ok b) : ∃ a, x = .ok a ∧ f a = .ok b := by
  cases x with
  | error e => cases h
  | ok a => exact ⟨a, rfl, h⟩

theorem exists_of_bind_pure {x : Except ε α} {f : α → β} {b : β}
    (h : (x >>= fun a => pure (f a)) = .ok b) : ∃ a, x = .ok a ∧ f a = b := by
  obtain ⟨a, ha, h⟩ := exists_of_bind_ok h
  exact ⟨a, ha, Except.ok.inj h⟩

theorem exists_of_map_ok {x : Except ε α} {f : α → β} {b : β} (h : f <$> x = .ok b) :
    ∃ a, x = .ok a ∧ f a = b := by
  rw [map_eq_pure_bind] at h
  exact exists_of_bind_pure h

theorem mapM_eq_ok_iff {f : α → Except ε β} {as : List α} {bs : List β} :
    as.mapM f = .ok bs ↔ List.Forall₂ (fun a b => f a = .ok b) as bs := by
  induction as generalizing bs with
  | nil =>
    rw [List.mapM_nil, List.forall₂_nil_left_iff]
    exact ⟨fun h => (Except.ok.inj h).symm, fun h => congrArg Except.ok h.symm⟩
  | cons a as ih =>
    rw [List.mapM_cons, List.forall₂_cons_left_iff]
    constructor
    · intro h
      obtain ⟨b, hb, h⟩ := exists_of_bind_ok h
      obtain ⟨rest, hrest, rfl⟩ := exists_of_bind_pure h
      exact ⟨b, rest, hb, ih.mp hrest, rfl⟩
    · rintro ⟨b, rest, hb, hrest, rfl⟩
      rw [hb, ih.mpr hrest]
      rfl

/-- A run along a list has a result for every item. -/
theorem exists_of_mem_of_mapM_ok {f : α → Except ε β} {as : List α} {bs : List β} {a : α}
    (h : as.mapM f = .ok bs) (ha : a ∈ as) : ∃ b ∈ bs, f a = .ok b :=
  exists_mem_of_forall₂ (mapM_eq_ok_iff.mp h) ha

/-- Every result of a run along a list belongs to an item. -/
theorem exists_of_mapM_ok_of_mem {f : α → Except ε β} {as : List α} {bs : List β} {b : β}
    (h : as.mapM f = .ok bs) (hb : b ∈ bs) : ∃ a ∈ as, f a = .ok b :=
  exists_mem_of_forall₂ (mapM_eq_ok_iff.mp h).flip hb

/-- The run ends with a result. -/
def Succeeds (x : Except ε α) : Prop := ∃ a, x = .ok a

@[simp] theorem succeeds_ok (a : α) : Succeeds (.ok a : Except ε α) := ⟨a, rfl⟩

@[simp] theorem not_succeeds_error (e : ε) : ¬ Succeeds (.error e : Except ε α) := by
  rintro ⟨a, h⟩
  cases h

theorem succeeds_bind_iff {x : Except ε α} {f : α → Except ε β} :
    Succeeds (x >>= f) ↔ ∃ a, x = .ok a ∧ Succeeds (f a) := by
  constructor
  · rintro ⟨b, h⟩
    obtain ⟨a, ha, hb⟩ := exists_of_bind_ok h
    exact ⟨a, ha, b, hb⟩
  · rintro ⟨a, rfl, h⟩
    exact h

/-- A step that cannot fail has no say. -/
@[simp] theorem succeeds_bind_pure {x : Except ε α} {f : α → β} :
    Succeeds (x >>= fun a => pure (f a)) ↔ Succeeds x := by
  rw [succeeds_bind_iff]
  exact ⟨fun ⟨a, ha, _⟩ => ⟨a, ha⟩, fun ⟨a, ha⟩ => ⟨a, ha, f a, rfl⟩⟩

@[simp] theorem succeeds_map {x : Except ε α} {f : α → β} : Succeeds (f <$> x) ↔ Succeeds x :=
  succeeds_bind_pure

/-- Steps whose success does not hang on what went before. -/
theorem succeeds_bind_and {x : Except ε α} {f : α → Except ε β} {p : Prop}
    (hf : ∀ a, Succeeds (f a) ↔ p) : Succeeds (x >>= f) ↔ Succeeds x ∧ p := by
  rw [succeeds_bind_iff]
  constructor
  · rintro ⟨a, ha, h⟩
    exact ⟨⟨a, ha⟩, (hf a).mp h⟩
  · rintro ⟨⟨a, ha⟩, h⟩
    exact ⟨a, ha, (hf a).mpr h⟩

@[simp] theorem succeeds_mapM {f : α → Except ε β} {as : List α} :
    Succeeds (as.mapM f) ↔ ∀ a ∈ as, Succeeds (f a) := by
  induction as with
  | nil => exact iff_of_true ⟨[], rfl⟩ (by simp)
  | cons a as ih =>
    rw [List.mapM_cons, succeeds_bind_and fun b => succeeds_bind_pure, ih, List.forall_mem_cons]

/-- What the run ends with, if it has a result, has the property. -/
def Yields (p : α → Prop) (x : Except ε α) : Prop := ∀ a, x = .ok a → p a

namespace Yields

variable {p : α → Prop} {q : β → Prop}

theorem of_ok {a : α} (h : p a) : Yields p (.ok a : Except ε α) := by
  intro b hb
  exact Except.ok.inj hb ▸ h

theorem pure {a : α} (h : p a) : Yields p (pure a : Except ε α) := of_ok h

theorem trivial (x : Except ε α) : Yields (fun _ => True) x := fun _ _ => ⟨⟩

theorem of_error (e : ε) : Yields p (.error e : Except ε α) := by
  intro a h
  cases h

theorem bind {x : Except ε α} {f : α → Except ε β} (hx : Yields p x)
    (hf : ∀ a, p a → Yields q (f a)) : Yields q (x >>= f) := by
  intro b h
  obtain ⟨a, ha, hb⟩ := exists_of_bind_ok h
  exact hf a (hx a ha) b hb

theorem map {x : Except ε α} {f : α → β} (hx : Yields p x) (hf : ∀ a, p a → q (f a)) :
    Yields q (f <$> x) :=
  hx.bind fun a ha => of_ok (hf a ha)

theorem mapM {f : α → Except ε β} {as : List α} (h : ∀ a ∈ as, Yields q (f a)) :
    Yields (∀ b ∈ ·, q b) (as.mapM f) := by
  intro bs hbs b hb
  obtain ⟨a, ha, hab⟩ := exists_of_mapM_ok_of_mem hbs hb
  exact h a ha b hab

end Yields

end Success

end PolySql
