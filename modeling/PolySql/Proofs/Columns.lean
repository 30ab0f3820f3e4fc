import PolySql.Sql.Select

/-!
The clauses that a select is written from: a select without columns gets one for all of them. No
other component knows of it.
-/

namespace PolySql

section Lookup

variable {α : Type} (cs ds : List (Scoped α)) (component engine : String)

theorem visible_append :
    visible (cs ++ ds) component engine =
      visible cs component engine ++ visible ds component engine :=
  List.filter_append cs ds

variable {cs ds} {component engine}

/-- The effective clause is one of those that are seen, and depends on nothing else. -/
theorem effectiveItem_congr (h : visible cs component engine = visible ds component engine) :
    effectiveItem cs component engine = effectiveItem ds component engine := by
  rw [effectiveItem, effective, h]
  rfl

theorem visible_ne_nil_of_effectiveItem {a : α}
    (h : effectiveItem cs component engine = some a) : visible cs component engine ≠ [] := by
  obtain ⟨c, hc, -⟩ := exists_of_effectiveItem _ _ _ h
  exact List.ne_nil_of_mem hc

end Lookup

namespace Sql

variable (t : Target) (cs : List (Clause SubSelect))

def withColumns : List (Clause SubSelect) :=
  if anyVisible cs "select" t.engine then cs else cs ++ [allColumns]

variable {t cs}

theorem visible_withColumns {component : String} (h : component ≠ "select") :
    visible (withColumns t cs) component t.engine = visible cs component t.engine := by
  unfold withColumns
  split
  · rfl
  · have hnone : visible [allColumns] component t.engine = [] := by
      simp [visible, allColumns, h.symm]
    rw [visible_append, hnone, List.append_nil]

theorem visible_withColumns_select (h : visible cs "select" t.engine = []) :
    visible (withColumns t cs) "select" t.engine = [allColumns] := by
  have hnone : ¬ anyVisible cs "select" t.engine := by
    rw [anyVisible_iff, h]
    simp
  rw [withColumns, if_neg hnone, visible_append, h]
  rfl

theorem withColumns_of_visible (h : visible cs "select" t.engine ≠ []) : withColumns t cs = cs :=
  if_pos ((anyVisible_iff _ _ _).mpr h)

theorem anyVisible_withColumns_select : anyVisible (withColumns t cs) "select" t.engine := by
  rw [anyVisible_iff]
  by_cases hnone : visible cs "select" t.engine = []
  · rw [visible_withColumns_select hnone]
    exact List.cons_ne_nil _ _
  · rwa [withColumns_of_visible hnone]

variable {window : Option Window} {isDistinct : Bool}

theorem aggregatePart_of_unseen (h : visible cs "aggregate" t.engine = []) :
    aggregatePart t window isDistinct cs = .ok ∅ := by
  rw [aggregatePart, (effectiveItem_eq_none_iff _ _ _).mpr h]

theorem columnsPart_of_aggregate (h : visible cs "aggregate" t.engine ≠ []) :
    columnsPart t window isDistinct cs = .ok ∅ := by
  rw [columnsPart, (anyVisible_iff _ _ _).mpr h]
  rfl

theorem columnsPart_of_columns (hnone : visible cs "aggregate" t.engine = [])
    (hseen : anyVisible cs "select" t.engine) :
    columnsPart t window isDistinct cs = do
      let list ← columns t.dialect (visible cs "select" t.engine)
      let list := if list.text = "" then list ++ "*" else list
      return "SELECT " ++ (if isDistinct then "DISTINCT " else "") ++ topPart t window ++ list := by
  have haggregate : ¬ anyVisible cs "aggregate" t.engine := by
    rw [anyVisible_iff, hnone]
    simp
  rw [columnsPart, if_neg (by simp [haggregate, hseen])]

end Sql

end PolySql
