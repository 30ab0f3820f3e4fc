import PolySql.Query.Basic

/-!
The clauses that an engine sees, and the one that takes effect: a clause scoped to the engine wins
over a wildcard, and an earlier one over a later one.
-/

namespace PolySql

/-- The engine that stands for every dialect. -/
abbrev wildcard : String := "*"

/-- Whether a clause is seen when compiling for `engine`. -/
def Scoped.appliesTo {α : Type} (s : Scoped α) (engine : String) : Bool :=
  s.engine == wildcard || s.engine == engine

section Lookup

variable {α : Type} (cs : List (Scoped α)) (component engine : String)

/-- The clauses of a component that the engine sees, in their order. -/
def visible : List (Scoped α) :=
  cs.filter fun c => c.component == component && c.appliesTo engine

/-- The one clause of a component that takes effect. -/
def effective : Option (Scoped α) :=
  let seen := visible cs component engine
  (seen.find? (·.engine == engine)).or seen.head?

def effectiveItem : Option α := (effective cs component engine).map (·.item)

def anyVisible : Bool := cs.any fun c => c.component == component && c.appliesTo engine

theorem anyVisible_iff : anyVisible cs component engine ↔ visible cs component engine ≠ [] := by
  simp [anyVisible, visible]

theorem effective_eq_none_iff :
    effective cs component engine = none ↔ visible cs component engine = [] := by
  simp only [effective, Option.or_eq_none_iff, List.head?_eq_none_iff, and_iff_right_iff_imp]
  intro h
  simp [h]

theorem effectiveItem_eq_none_iff :
    effectiveItem cs component engine = none ↔ visible cs component engine = [] := by
  rw [effectiveItem, Option.map_eq_none_iff, effective_eq_none_iff]

theorem mem_visible_of_effective {c : Scoped α} (h : effective cs component engine = some c) :
    c ∈ visible cs component engine := by
  simp only [effective, Option.or_eq_some_iff] at h
  rcases h with h | ⟨-, h⟩
  · exact List.mem_of_find?_eq_some h
  · exact List.mem_of_head? h

theorem exists_of_effectiveItem {a : α} (h : effectiveItem cs component engine = some a) :
    ∃ c ∈ visible cs component engine, c.item = a := by
  obtain ⟨c, hc, rfl⟩ := Option.map_eq_some_iff.mp h
  exact ⟨c, mem_visible_of_effective _ _ _ hc, rfl⟩

section Map

variable {β : Type} (f : α → β)

theorem appliesTo_map (c : Scoped α) : (c.map f).appliesTo engine = c.appliesTo engine := rfl

theorem visible_map :
    visible (cs.map (Scoped.map f)) component engine =
      (visible cs component engine).map (Scoped.map f) := by
  simp [visible, List.filter_map, Function.comp_def, Scoped.map, Scoped.appliesTo]

theorem effective_map :
    effective (cs.map (Scoped.map f)) component engine =
      (effective cs component engine).map (Scoped.map f) := by
  simp only [effective, visible_map, List.find?_map, List.head?_map, Option.map_or]
  rfl

theorem effectiveItem_map :
    effectiveItem (cs.map (Scoped.map f)) component engine =
      (effectiveItem cs component engine).map f := by
  simp [effectiveItem, effective_map, Option.map_map, Function.comp_def, Scoped.map]

theorem anyVisible_map :
    anyVisible (cs.map (Scoped.map f)) component engine = anyVisible cs component engine := by
  simp [anyVisible, Function.comp_def, Scoped.map, Scoped.appliesTo]

end Map

/-- The clauses with their positions as items. -/
def positions : List (Scoped Nat) :=
  cs.zipIdx.map fun p => ⟨p.1.component, p.1.engine, p.2⟩

end Lookup

end PolySql
