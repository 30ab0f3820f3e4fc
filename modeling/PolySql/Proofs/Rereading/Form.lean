import PolySql.Model.Read
import PolySql.Proofs.Success

/-!
Laws of forms. Main statements: a form made of parts reads what its parts read (`read_map`,
`read_seq`, `read_member_cons`); a property of all values that a form can read comes from its parts
(`Ensures`); the members of an object are read one by one (`fieldsOf_eq_mapM`).
-/

namespace PolySql

@[simp] theorem Checked.both_ok {α β γ : Type} (f : α → β → γ) (a : α) (b : β) :
    Checked.both f (.ok a) (.ok b) = .ok (f a b) := rfl

@[simp] theorem Checked.under_ok {α : Type} (step : String) (a : α) :
    Checked.under step (.ok a) = .ok a := rfl

theorem Checked.both_eq_ok {α β γ : Type} {f : α → β → γ} {x : Checked α} {y : Checked β} {c : γ}
    (h : Checked.both f x y = .ok c) : ∃ a b, x = .ok a ∧ y = .ok b ∧ f a b = c := by
  cases x with
  | error issues => cases y <;> cases h
  | ok a =>
    cases y with
    | error issues => cases h
    | ok b => exact ⟨a, b, rfl, rfl, Except.ok.inj h⟩

theorem Checked.under_eq_ok {α : Type} {step : String} {x : Checked α} {a : α}
    (h : x.under step = .ok a) : x = .ok a := by
  cases x with
  | error issues => cases h
  | ok b => exact h

namespace Form

variable {α β : Type} {members : List (String × Field)}

@[simp] theorem read_pure (a : α) : (pure a : Form α).read members = .ok a := rfl

@[simp] theorem read_map (f : α → β) (x : Form α) : (f <$> x).read members = f <$> x.read members :=
  rfl

@[simp] theorem read_seq (f : Form (α → β)) (x : Form α) :
    (f <*> x).read members = .both (fun g a => g a) (f.read members) (x.read members) := rfl

/-- A member is read where it stands first. -/
theorem read_member_cons {name other : String} {read : Field → Checked α} {default : Option α}
    {f : Field} :
    (member name read default).read ((other, f) :: members) =
      if name = other then (read f).under name else (member name read default).read members := by
  by_cases h : name = other
  · simp [member, h]
  · have hne : (name == other) = false := beq_false_of_ne h
    simp [member, h, List.lookup_cons, hne]

theorem check_eq_ok_iff {form : Form α} {a : α} :
    form.check members = .ok a ↔ form.read members = .ok a ∧ form.unnamed members = [] := by
  unfold check
  cases form.read members with
  | error issues => simp
  | ok b => cases form.unnamed members <;> simp

theorem run_eq_ok_iff {model : String} {form : Form α} {a : α} :
    form.run model members = .ok a ↔ form.check members = .ok a := by
  unfold run
  cases form.check members <;> simp [Except.mapError]

theorem unnamed_eq_nil {form : Form α} (h : ∀ m ∈ members, m.1 ∈ form.names) :
    form.unnamed members = [] := by
  rw [unnamed, List.map_eq_nil_iff, List.filter_eq_nil_iff]
  intro m hm
  simpa using h m hm

theorem read_of_run {model : String} {form : Form α} {a : α} (h : form.run model members = .ok a) :
    form.read members = .ok a :=
  (check_eq_ok_iff.mp (run_eq_ok_iff.mp h)).1

theorem run_eq_ok {model : String} {form : Form α} {a : α} (hread : form.read members = .ok a)
    (hnames : ∀ m ∈ members, m.1 ∈ form.names) : form.run model members = .ok a :=
  run_eq_ok_iff.mpr (check_eq_ok_iff.mpr ⟨hread, unnamed_eq_nil hnames⟩)

end Form

namespace Read

theorem itemsFrom_eq_ok_iff {α : Type} {read : Field → Checked α} {items : List Field}
    {start : Nat} {as : List α} :
    itemsFrom read start items = .ok as ↔ List.Forall₂ (fun f a => read f = .ok a) items as := by
  induction items generalizing start as with
  | nil =>
    rw [itemsFrom, List.forall₂_nil_left_iff]
    exact ⟨fun h => (Except.ok.inj h).symm, fun h => congrArg Except.ok h.symm⟩
  | cons f rest ih =>
    rw [itemsFrom, List.forall₂_cons_left_iff]
    constructor
    · intro h
      obtain ⟨a, as, ha, has, rfl⟩ := Checked.both_eq_ok h
      exact ⟨a, as, Checked.under_eq_ok ha, ih.mp has, rfl⟩
    · rintro ⟨a, as, ha, has, rfl⟩
      rw [ha, ih.mpr has]
      rfl

theorem list_eq_ok_iff {α : Type} {read : Field → Checked α} {f : Field} {as : List α} :
    list read f = .ok as ↔
      ∃ items, f.items? = some items ∧ List.Forall₂ (fun f a => read f = .ok a) items as := by
  unfold list
  cases f.items? with
  | none => simp [Checked.fail]
  | some items => simp [itemsFrom_eq_ok_iff]

theorem modelsOf_eq_mapM (items : List Json) : modelsOf items = items.mapM (fieldOf .clause) := by
  induction items with
  | nil => rfl
  | cons v rest ih => rw [modelsOf, List.mapM_cons, ih]

theorem fieldsOf_eq_mapM (owner : Shape) (members : List (String × Json)) :
    fieldsOf owner members =
      members.mapM fun m => Prod.mk m.1 <$> fieldOf (shapeOf owner m.1) m.2 := by
  induction members with
  | nil => rfl
  | cons m rest ih =>
    rw [fieldsOf, List.mapM_cons, ih]
    cases fieldOf (shapeOf owner m.1) m.2 <;> rfl

/-- The member and the field that is read from it. -/
def Reads (owner : Shape) (m : String × Json) (f : String × Field) : Prop :=
  f.1 = m.1 ∧ fieldOf (shapeOf owner m.1) m.2 = .ok f.2

theorem fieldsOf_eq_ok_iff {owner : Shape} {members : List (String × Json)}
    {fields : List (String × Field)} :
    fieldsOf owner members = .ok fields ↔ List.Forall₂ (Reads owner) members fields := by
  have hreads : ∀ (m : String × Json) (f : String × Field),
      Prod.mk m.1 <$> fieldOf (shapeOf owner m.1) m.2 = .ok f ↔ Reads owner m f := by
    rintro ⟨name, v⟩ ⟨other, f⟩
    cases h : fieldOf (shapeOf owner name) v with
    | error e => simp [Reads, h]
    | ok g => simp [Reads, h, eq_comm]
  rw [fieldsOf_eq_mapM, mapM_eq_ok_iff]
  exact ⟨fun h => h.imp fun m f => (hreads m f).mp, fun h => h.imp fun m f => (hreads m f).mpr⟩

end Read

end PolySql
