import Mathlib.Data.List.InsertIdx
import PolySql.Draft
import PolySql.Proofs.Effective

/-!
Lookup in a query that is edited. Clauses are known by their places, since equal ones may stand in
several. Main statement: what each lookup answers once a clause is put in at any place, and that
the lookups of a component agree behind any edits.
-/

namespace PolySql

/-- What `f` makes of a clause, in the scope of the clause. -/
def Scoped.withItem {α β : Type} (f : Scoped α → β) (c : Scoped α) : Scoped β :=
  ⟨c.component, c.engine, f c⟩

section Scopes

variable {α β : Type} {component engine : String} (f : Scoped α → β)

theorem component_withItem (c : Scoped α) : (c.withItem f).component = c.component := rfl

theorem appliesTo_withItem (c : Scoped α) :
    (c.withItem f).appliesTo engine = c.appliesTo engine := rfl

theorem map_comp_withItem {γ : Type} (g : β → γ) :
    Scoped.map g ∘ Scoped.withItem f = Scoped.withItem (g ∘ f) := rfl

theorem visible_withItem (cs : List (Scoped α)) :
    visible (cs.map (.withItem f)) component engine =
      (visible cs component engine).map (.withItem f) := by
  simp [visible, List.filter_map, Function.comp_def, component_withItem, appliesTo_withItem]

theorem effective_withItem (cs : List (Scoped α)) :
    effective (cs.map (.withItem f)) component engine =
      (effective cs component engine).map (.withItem f) := by
  simp only [effective, visible_withItem, List.find?_map, List.head?_map, Option.map_or]
  rfl

/-- Nothing but the scopes decides which clause takes effect. -/
theorem takesEffect_withItem (pre : List (Scoped α)) (x : Scoped α) (post : List (Scoped α)) :
    TakesEffect component engine (pre.map (.withItem f)) (x.withItem f)
        (post.map (.withItem f)) ↔
      TakesEffect component engine pre x post := by
  simp [TakesEffect, Scoped.withItem, Scoped.appliesTo, or_imp, forall_and]

end Scopes

section Insertion

variable {α : Type} {component engine : String} {cs : List (Scoped α)} {i : ℕ}

theorem insertIdx_eq (hi : i ≤ cs.length) (x : Scoped α) :
    cs.insertIdx i x = cs.take i ++ x :: cs.drop i := by
  have hcons := List.modifyTailIdx_add (List.cons x) 0 (cs.take i) (cs.drop i)
  rwa [List.take_append_drop, List.length_take_of_le hi] at hcons

theorem effective_insertIdx (hi : i ≤ cs.length) (x : Scoped α) :
    effective (cs.insertIdx i x) component engine =
      if TakesEffect component engine (cs.take i) x (cs.drop i) then some x
      else effective cs component engine := by
  rw [insertIdx_eq hi, effective_insertion, List.take_append_drop]

/-- A clause that is seen stands behind those that are seen in front of it. -/
theorem visible_insertIdx (hi : i ≤ cs.length) (x : Scoped α) :
    visible (cs.insertIdx i x) component engine =
      if x.component = component ∧ x.appliesTo engine then
        (visible cs component engine).insertIdx (visible (cs.take i) component engine).length x
      else visible cs component engine := by
  have hsplit : visible cs component engine =
      visible (cs.take i) component engine ++ visible (cs.drop i) component engine := by
    rw [← visible_append, List.take_append_drop]
  rw [insertIdx_eq hi, visible_append, visible_cons, hsplit]
  split
  · exact (List.modifyTailIdx_add (List.cons x) 0 _ _).symm
  · rfl

end Insertion

section Places

variable {α : Type} (cs : List (Scoped α)) (component engine : String)

/-- The places of the clauses of a component that the engine sees, in their order. -/
def visiblePlaces : List ℕ := (visible (positions cs) component engine).map (·.item)

/-- The place of the one clause of a component that takes effect. -/
def effectivePlace : Option ℕ := effectiveItem (positions cs) component engine

/-- The lookups of a component answer for the same clauses. -/
structure LookupsAgree : Prop where
  any_iff_visible : anyVisible cs component engine ↔ visiblePlaces cs component engine ≠ []
  any_iff_effective : anyVisible cs component engine ↔ effectivePlace cs component engine ≠ none
  mem_visible : ∀ j ∈ effectivePlace cs component engine, j ∈ visiblePlaces cs component engine
  visible_eq : (visible cs component engine).map some =
    (visiblePlaces cs component engine).map (cs[·]?)
  effective_eq : (effective cs component engine).map some =
    (effectivePlace cs component engine).map (cs[·]?)

/-- Where the clause from place `j` stands once another is put in at place `i`. -/
def shifted (i j : ℕ) : ℕ := if j < i then j else j + 1

theorem shifted_ne (i j : ℕ) : shifted i j ≠ i := by
  unfold shifted
  split <;> omega

theorem map_shifted_ne (i : ℕ) (place : Option ℕ) : place.map (shifted i) ≠ some i := by
  intro h
  obtain ⟨j, -, hj⟩ := Option.map_eq_some_iff.mp h
  exact shifted_ne i j hj

variable {cs component engine}

theorem length_positions : (positions cs).length = cs.length := by
  simp [positions]

theorem getElem?_positions (j : ℕ) :
    (positions cs)[j]? = cs[j]?.map (.withItem fun _ => j) := by
  rw [positions, List.getElem?_map, List.getElem?_zipIdx, Option.map_map, Nat.zero_add]
  rfl

variable (cs) in
theorem map_positions :
    (positions cs).map (Scoped.map (cs[·]?)) = cs.map (.withItem some) := by
  apply List.ext_getElem?
  intro j
  rw [List.getElem?_map, List.getElem?_map, getElem?_positions]
  cases h : cs[j]? with
  | none => rfl
  | some c => simp [Scoped.map, Scoped.withItem, h]

section Insertion

variable {i : ℕ} (x : Scoped α)

theorem getElem?_shifted (j : ℕ) : (cs.insertIdx i x)[shifted i j]? = cs[j]? := by
  rw [List.getElem?_insertIdx, if_neg (shifted_ne i j)]
  unfold shifted
  grind

theorem positions_insertIdx :
    positions (cs.insertIdx i x) =
      ((positions cs).map (Scoped.map (shifted i))).insertIdx i (x.withItem fun _ => i) := by
  apply List.ext_getElem?
  intro j
  simp only [getElem?_positions, List.getElem?_insertIdx, List.getElem?_map, List.length_map,
    length_positions, Option.map_map]
  -- In front of the new place nothing moves; behind it, everything moves by one.
  rcases Nat.lt_trichotomy j i with hlt | rfl | hgt
  · have hplace : shifted i j = j := if_pos hlt
    rw [if_pos hlt, if_pos hlt, map_comp_withItem, Function.comp_def, hplace]
  · simp only [Nat.lt_irrefl, if_true, if_false]
    split <;> rfl
  · have hback : ¬ j < i := by omega
    have hother : ¬ j = i := by omega
    have hplace : shifted i (j - 1) = j := by
      unfold shifted
      split <;> omega
    rw [if_neg hback, if_neg hback, if_neg hother, if_neg hother, map_comp_withItem,
      Function.comp_def, hplace]

variable (cs) in
/-- The scopes at the positions are those of the clauses. -/
theorem scopes_positions (f : ℕ → ℕ) :
    ((positions cs).map (Scoped.map f)).map (Scoped.withItem fun _ => ()) =
      cs.map (Scoped.withItem fun _ => ()) := by
  apply List.ext_getElem?
  intro j
  simp only [List.getElem?_map, getElem?_positions, Option.map_map]
  rfl

theorem takesEffect_positions (f : ℕ → ℕ) :
    TakesEffect component engine (((positions cs).map (Scoped.map f)).take i)
        (x.withItem fun _ => i) (((positions cs).map (Scoped.map f)).drop i) ↔
      TakesEffect component engine (cs.take i) x (cs.drop i) := by
  rw [← takesEffect_withItem fun _ => (), ← takesEffect_withItem (fun _ => ()) (cs.take i),
    List.map_take, List.map_drop, scopes_positions, List.map_take, List.map_drop]
  rfl

theorem length_visible_positions (f : ℕ → ℕ) :
    (visible (((positions cs).map (Scoped.map f)).take i) component engine).length =
      (visible (cs.take i) component engine).length := by
  have hscopes := congrArg (fun l => (visible (l.take i) component engine).length)
    (scopes_positions cs f)
  simpa only [← List.map_take, visible_withItem, List.length_map] using hscopes

theorem effectivePlace_insertIdx (hi : i ≤ cs.length) :
    effectivePlace (cs.insertIdx i x) component engine =
      if TakesEffect component engine (cs.take i) x (cs.drop i) then some i
      else (effectivePlace cs component engine).map (shifted i) := by
  have hlength : i ≤ ((positions cs).map (Scoped.map (shifted i))).length := by
    rwa [List.length_map, length_positions]
  rw [effectivePlace, effectiveItem, positions_insertIdx, effective_insertIdx hlength]
  simp only [takesEffect_positions]
  split
  · rfl
  · exact effectiveItem_map _ _ _ _

theorem visiblePlaces_insertIdx (hi : i ≤ cs.length) :
    visiblePlaces (cs.insertIdx i x) component engine =
      if x.component = component ∧ x.appliesTo engine then
        ((visiblePlaces cs component engine).map (shifted i)).insertIdx
          (visible (cs.take i) component engine).length i
      else (visiblePlaces cs component engine).map (shifted i) := by
  have hlength : i ≤ ((positions cs).map (Scoped.map (shifted i))).length := by
    rwa [List.length_map, length_positions]
  have hmoved : (visiblePlaces cs component engine).map (shifted i) =
      (visible ((positions cs).map (Scoped.map (shifted i))) component engine).map (·.item) := by
    rw [visible_map, List.map_map, visiblePlaces, List.map_map]
    rfl
  rw [hmoved, visiblePlaces, positions_insertIdx, visible_insertIdx hlength,
    length_visible_positions, apply_ite (List.map Scoped.item)]
  exact if_congr Iff.rfl (List.map_insertIdx _ _ _ _) rfl

end Insertion

variable (cs component engine)

theorem effectivePlace_eq_none_iff :
    effectivePlace cs component engine = none ↔ visiblePlaces cs component engine = [] := by
  rw [effectivePlace, effectiveItem_eq_none_iff, visiblePlaces, List.map_eq_nil_iff]

theorem mem_visiblePlaces {j : ℕ} (h : effectivePlace cs component engine = some j) :
    j ∈ visiblePlaces cs component engine := by
  obtain ⟨p, hp, rfl⟩ := Option.map_eq_some_iff.mp h
  exact List.mem_map_of_mem (mem_visible_of_effective _ _ _ hp)

theorem visible_eq_getElem? :
    (visible cs component engine).map some =
      (visiblePlaces cs component engine).map (cs[·]?) := by
  have hclauses := congrArg (visible · component engine) (map_positions cs)
  simp only [visible_map, visible_withItem] at hclauses
  have hitems := congrArg (List.map Scoped.item) hclauses
  rw [List.map_map, List.map_map] at hitems
  rw [visiblePlaces, List.map_map]
  exact hitems.symm

theorem length_visiblePlaces :
    (visiblePlaces cs component engine).length = (visible cs component engine).length := by
  have hlength := congrArg List.length (visible_eq_getElem? cs component engine)
  rwa [List.length_map, List.length_map, eq_comm] at hlength

/-- A clause that is put in has a place among those that are seen. -/
theorem length_visible_take_le (i : ℕ) :
    (visible (cs.take i) component engine).length ≤ (visiblePlaces cs component engine).length := by
  rw [length_visiblePlaces]
  exact ((List.take_sublist i cs).filter _).length_le

theorem effective_eq_getElem? :
    (effective cs component engine).map some =
      (effectivePlace cs component engine).map (cs[·]?) := by
  have hclauses := congrArg (effective · component engine) (map_positions cs)
  simp only [effective_map, effective_withItem] at hclauses
  have hitems := congrArg (Option.map Scoped.item) hclauses
  rw [Option.map_map, Option.map_map] at hitems
  rw [effectivePlace, effectiveItem, Option.map_map]
  exact hitems.symm

theorem lookupsAgree : LookupsAgree cs component engine := by
  have hany : anyVisible cs component engine ↔ visiblePlaces cs component engine ≠ [] := by
    rw [anyVisible_iff, ne_eq, ne_eq, ← List.length_eq_zero_iff, ← length_visiblePlaces,
      List.length_eq_zero_iff]
  have hone : anyVisible cs component engine ↔ effectivePlace cs component engine ≠ none := by
    rw [hany, ne_eq, ne_eq, effectivePlace_eq_none_iff]
  exact ⟨hany, hone, fun _ => mem_visiblePlaces cs component engine, visible_eq_getElem? _ _ _,
    effective_eq_getElem? _ _ _⟩

end Places

namespace Draft

theorem place_le (n : ℕ) (index : Int) : place n index ≤ n := by
  unfold place
  split <;> omega

end Draft

/-- Once a clause is put in at any place of a query, it takes effect exactly if it is the first
that is scoped to the engine, or a wildcard that stands first where none is; otherwise the same
clause does as before. It is seen behind those that are seen in front of it exactly if its
component and engine are asked for, and nothing else comes or goes. Behind any edits, a component
is there if and only if some clause of it is seen, if and only if one takes effect, which is one of
those that are seen. -/
theorem lookup_insert (d : Draft) (index : Int) (x : Clause Query) (component engine : String) :
    let cs := d.block.clauses
    let i := Draft.place cs.length index
    let ds := (d.apply (.insert index x)).block.clauses
    let kept := (visiblePlaces cs component engine).map (shifted i)
    let gained := kept.insertIdx (visible (cs.take i) component engine).length i
    (ds[i]? = some x ∧ ∀ j, ds[shifted i j]? = cs[j]?) ∧
      (effectivePlace ds component engine = some i ↔
        TakesEffect component engine (cs.take i) x (cs.drop i)) ∧
      (effectivePlace ds component engine ≠ some i →
        effectivePlace ds component engine =
          (effectivePlace cs component engine).map (shifted i)) ∧
      (visiblePlaces ds component engine = gained ↔
        x.component = component ∧ x.appliesTo engine) ∧
      (visiblePlaces ds component engine ≠ gained →
        visiblePlaces ds component engine = kept) ∧
      ∀ edits : List Edit,
        LookupsAgree (edits.foldl Draft.apply d).block.clauses component engine := by
  intro cs i ds kept gained
  have hi : i ≤ cs.length := Draft.place_le _ _
  have hplace : effectivePlace ds component engine =
      if TakesEffect component engine (cs.take i) x (cs.drop i) then some i
      else (effectivePlace cs component engine).map (shifted i) := effectivePlace_insertIdx x hi
  have hplaces : visiblePlaces ds component engine =
      if x.component = component ∧ x.appliesTo engine then gained else kept :=
    visiblePlaces_insertIdx x hi
  have hother : some i ≠ (effectivePlace cs component engine).map (shifted i) :=
    (map_shifted_ne _ _).symm
  have hgained : gained ≠ kept := by
    intro h
    have hlength := congrArg List.length h
    rw [List.length_insertIdx_of_le_length] at hlength
    · omega
    · rw [List.length_map]
      exact length_visible_take_le cs component engine i
  have hown : ds[i]? = some x := List.getElem?_insertIdx_self.trans (if_pos hi)
  refine ⟨⟨hown, getElem?_shifted x⟩, ?_, ?_, ?_, ?_, fun edits => lookupsAgree _ _ _⟩
  · rw [hplace]
    exact hother.ite_eq_left_iff
  · rw [hplace]
    exact (ite_eq_or_eq _ _ _).resolve_left
  · rw [hplaces]
    exact hgained.ite_eq_left_iff
  · rw [hplaces]
    exact (ite_eq_or_eq _ _ _).resolve_left

/-- A table for every engine, and one for postgres. -/
def scopedUsers : Draft where
  block := {
    clauses := [⟨"from", wildcard, .table (.named "users")⟩,
      ⟨"from", "postgres", .table (.named "pg_users")⟩]
    method := .select
    isDistinct := false
    aliasName := none }
  assigned := []

/-- A wildcard, put in before the last table, counts for postgres as one that is seen, and leaves
the table in effect that is scoped to it; a table of its own takes effect in front. -/
theorem scopedUsers_insert :
    let other : Clause Query := ⟨"from", wildcard, .table (.named "accounts")⟩
    let own : Clause Query := ⟨"from", "postgres", .table (.named "pg_accounts")⟩
    let behind := (scopedUsers.apply (.insert (-1) other)).block.clauses
    effectivePlace behind "from" "postgres" = some 2 ∧
      visiblePlaces behind "from" "postgres" = [0, 1, 2] ∧
      effectivePlace (scopedUsers.apply (.insert 0 own)).block.clauses "from" "postgres" =
        some 0 := by
  intro other own behind
  obtain ⟨-, hplace, hkept, hplaces, -⟩ :=
    lookup_insert scopedUsers (-1) other "from" "postgres"
  obtain ⟨-, htakes, -⟩ := lookup_insert scopedUsers 0 own "from" "postgres"
  refine ⟨?_, ?_, htakes.mpr (by decide)⟩
  · rw [hkept (fun h => absurd (hplace.mp h) (by decide))]
    decide
  · rw [hplaces.mpr (by decide)]
    decide

end PolySql
