import PolySql.Proofs.Bindings
import PolySql.Proofs.Filter
import PolySql.Proofs.Shared.Writer

/-!
Rows of values. Main statement: an update assigns to every column its value, and an insert lists the
values as it lists the columns, one for each and in one order; the values are bound between those of
the WITH list and those of the filter. A row without columns is one too.
-/

namespace PolySql

/-- What is written in a bound position. -/
def Bound.written (placeholder : String) : Bound → String
  | .value _ => placeholder
  | .raw sql => sql

theorem Bound.fragment_eq (placeholder : String) (b : Bound) :
    b.fragment placeholder = ⟨b.written placeholder, b.values⟩ := by
  cases b <;> rfl

/-- The columns of a row, each with what is assigned to it. -/
def assigned (d : Dialect) (columns : List String) (values : List Bound) : List String :=
  List.zipWith (fun column value => d.identifier column ++ " = " ++ value.written d.placeholder)
    columns values

theorem length_assigned (d : Dialect) {columns : List String} {values : List Bound}
    (h : columns.length = values.length) : (assigned d columns values).length = columns.length := by
  rw [assigned, List.length_zipWith, h, min_self]

theorem ne_empty_of_mem_assigned {d : Dialect} {columns : List String} {values : List Bound}
    {s : String} (h : s ∈ assigned d columns values) : s ≠ "" := by
  rw [assigned, ← List.map_uncurry_zip_eq_zipWith] at h
  obtain ⟨⟨column, value⟩, -, rfl⟩ := List.mem_map.mp h
  simp [String.append_eq_empty_iff]

theorem intercalate_eq_empty_iff {separator : String} {parts : List String}
    (h : ∀ s ∈ parts, s ≠ "") : String.intercalate separator parts = "" ↔ parts = [] := by
  match parts with
  | [] => simp
  | [s] => simpa using h s List.mem_cons_self
  | s :: next :: rest =>
    have hs := h s List.mem_cons_self
    simp [String.intercalate_cons_cons, String.append_eq_empty_iff, hs]

/-- Every assignment shows, so that they leave nothing only where there are none. -/
theorem intercalate_assigned_eq_empty_iff (d : Dialect) {columns : List String}
    {values : List Bound} (h : columns.length = values.length) :
    String.intercalate ", " (assigned d columns values) = "" ↔ columns = [] := by
  rw [intercalate_eq_empty_iff fun s hs => ne_empty_of_mem_assigned hs, ← List.length_eq_zero_iff,
    length_assigned d h, List.length_eq_zero_iff]

namespace Sql

variable {t : Target} {cs : List (Clause SubSelect)} {f : Fragment}

theorem text_bindAll (placeholder : String) (values : List Bound) :
    (bindAll placeholder values).text =
      String.intercalate ", " (values.map (·.written placeholder)) := by
  rw [bindAll, Writer.text_separated, List.map_map]
  refine congrArg _ (List.map_congr_left fun b _ => ?_)
  rw [Function.comp_apply, b.fragment_eq]

theorem text_assignments (columns : List String) (values : List Bound) :
    (assignments t columns values).text =
      String.intercalate ", " (assigned t.dialect columns values) := by
  rw [assignments, Writer.text_separated, List.map_map, assigned, List.zip, List.map_zipWith]
  refine congrArg _ (congrArg (List.zipWith · columns values) ?_)
  funext column value
  simp [Dialect.bound, value.fragment_eq]

/-- All values are bound where there is a column for each. -/
theorem bindings_assignments {columns : List String} {values : List Bound}
    (h : columns.length = values.length) :
    (assignments t columns values).bindings = values.flatMap Bound.values := by
  have hsnd : (columns.zip values).map Prod.snd = values := List.map_snd_zip h.ge
  rw [assignments, Fragment.bindings_separated, List.flatMap_map]
  simp only [Fragment.bindings_append, Fragment.coe_append, List.nil_append,
    Dialect.bindings_bound]
  rw [← List.flatMap_map, hsnd]

theorem insert_row_spec {columns : List String} {values : List Bound}
    (hrow : effectiveItem cs "insert" t.engine = some (.insert (.row columns values)))
    (h : insert t cs = .ok f) :
    ∃ table, effectiveItem cs "from" t.engine = some (.table (.named table)) ∧
      columns.length = values.length ∧
      f = "INSERT INTO " ++ t.dialect.identifier table ++ " (" ++ t.dialect.identifiers columns ++
        ") VALUES " ++ paren (bindAll t.dialect.placeholder values) := by
  obtain ⟨target, htarget, h⟩ := exists_of_bind_ok h
  obtain ⟨table, hfrom, rfl⟩ := changedTable_spec htarget
  rw [hrow] at h
  obtain ⟨u, hcheck, h⟩ := exists_of_bind_ok h
  exact ⟨table, hfrom, length_eq_of_checkRow hcheck, (Except.ok.inj h).symm⟩

end Sql

section Row

variable {Q R : Type} {f : Q → R} {b : Body Q}

theorem Body.map_eq_named_iff {table : String} :
    b.map f = .table (.named table) ↔ b = .table (.named table) := by
  constructor
  · intro h
    cases b with
    | table a => cases a <;> simp_all [Body.map, Table.map]
    | _ => cases h
  · rintro rfl
    rfl

theorem Body.map_eq_row_iff {columns : List String} {values : List Bound} :
    b.map f = .insert (.row columns values) ↔ b = .insert (.row columns values) := by
  constructor
  · intro h
    cases b with
    | insert i => cases i <;> simp_all [Body.map, Insert.map]
    | _ => cases h
  · rintro rfl
    rfl

variable {cs : List (Clause Q)} {component engine : String}

theorem effectiveItem_named {table : String}
    (h : effectiveItem (cs.map (Scoped.map (Body.map f))) component engine =
      some (.table (.named table))) :
    effectiveItem cs component engine = some (.table (.named table)) := by
  rw [effectiveItem_map] at h
  obtain ⟨b, hb, hmap⟩ := Option.map_eq_some_iff.mp h
  rw [hb, Body.map_eq_named_iff.mp hmap]

theorem effectiveItem_row {columns : List String} {values : List Bound} :
    effectiveItem (cs.map (Scoped.map (Body.map f))) component engine =
        some (.insert (.row columns values)) ↔
      effectiveItem cs component engine = some (.insert (.row columns values)) := by
  rw [effectiveItem_map, Option.map_eq_some_iff]
  simp only [Body.map_eq_row_iff, exists_eq_right]

end Row

/-- Every column of a row is written with its own value. Behind its WITH list an update assigns to
the columns, in their order, what is written for their values, in front of the filter; an insert
lists the columns and what is written for their values. Only values that are no SQL of their own
are bound, behind what the WITH list binds and in front of what the filter does. There are as many
columns as values, but there may be none of either, and then an update assigns nothing. -/
theorem row_paired {t : Target} {q : Query} {f : Fragment} (h : q.compile t = .ok f) :
    (q.block.method = .change .update → ∃ table columns values ctes filter,
      effectiveItem q.block.clauses "from" t.engine = some (.table (.named table)) ∧
      effectiveItem q.block.clauses "update" t.engine = some (.insert (.row columns values)) ∧
      columns.length = values.length ∧
      Sql.withList t.dialect (q.block.map (Query.subSelect t)).clauses = .ok ctes ∧
      q.filter t = .ok filter ∧
      f.text = ctes.text ++ "UPDATE " ++ t.dialect.identifier table ++ " SET " ++
        String.intercalate ", " (assigned t.dialect columns values) ++
        (if filter.text = "" then "" else " " ++ filter.text) ∧
      f.bindings = ctes.bindings ++ values.flatMap Bound.values ++ filter.bindings ∧
      (String.intercalate ", " (assigned t.dialect columns values) = "" ↔ columns = [])) ∧
    ∀ columns values, q.block.method = .change .insert →
      effectiveItem q.block.clauses "insert" t.engine = some (.insert (.row columns values)) →
      columns.length = values.length ∧ ∃ table ctes,
        effectiveItem q.block.clauses "from" t.engine = some (.table (.named table)) ∧
        Sql.withList t.dialect (q.block.map (Query.subSelect t)).clauses = .ok ctes ∧
        f.text = ctes.text ++ "INSERT INTO " ++ t.dialect.identifier table ++ " (" ++
          String.intercalate ", " (columns.map t.dialect.identifier) ++ ") VALUES (" ++
          String.intercalate ", " (values.map (·.written t.dialect.placeholder)) ++ ")" ∧
        f.bindings = ctes.bindings ++ values.flatMap Bound.values := by
  obtain ⟨cs, method, isDistinct, aliasName⟩ := q
  obtain ⟨ctes, sql, hctes, hsql, rfl⟩ := Sql.statement_parts h
  constructor
  · rintro (rfl : method = .change .update)
    obtain ⟨table, columns, values, filter, hfrom, hrow, hlength, hfilter, rfl⟩ :=
      Sql.update_spec hsql
    refine ⟨table, columns, values, ctes, filter, effectiveItem_named hfrom,
      effectiveItem_row.mp hrow, hlength, hctes, hfilter, ?_, ?_,
      intercalate_assigned_eq_empty_iff t.dialect hlength⟩
    · simp only [Fragment.text_append, Sql.text_assignments, String.append_assoc]
      split
      · next hblank => rw [hblank]
      · rfl
    · have hsuffix : (if filter.text = "" then filter else " " ++ filter).bindings =
          filter.bindings := by
        split <;> simp
      simp [Sql.bindings_assignments hlength, hsuffix]
  · rintro columns values (rfl : method = .change .insert) hrow
    obtain ⟨table, hfrom, hlength, rfl⟩ := Sql.insert_row_spec (effectiveItem_row.mpr hrow) hsql
    refine ⟨hlength, table, ctes, effectiveItem_named hfrom, hctes, ?_, ?_⟩
    · have hopen : ∀ s, ") VALUES " ++ ("(" ++ s) = ") VALUES (" ++ s := by
        intro s
        rw [← String.append_assoc]
        rfl
      simp only [Fragment.text_append, Sql.paren, Sql.text_bindAll, String.append_assoc,
        Dialect.identifiers, hopen]
    · simp

section Example

/-- A row of values, for all engines. -/
def rowOf (component : String) (columns : List String) (values : List Bound) : Clause Query :=
  ⟨component, wildcard, .insert (.row columns values)⟩

/-- An account that gets a name, next to the definition of a query. -/
def renamedAccount : Query :=
  .ofBlock ⟨[⟨"cte", wildcard, .table (.verbatim ⟨"SELECT * FROM users WHERE age >= ?",
      [.value (.int 18)]⟩ (some "adults"))⟩,
    ⟨"from", wildcard, .table (.named "accounts")⟩,
    rowOf "update" ["name", "changed", "visits"]
      [.value (.str "Ann"), .raw "CURRENT_TIMESTAMP", .value (.int 0)],
    ⟨"where", wildcard, .condition (.test ⟨false, false⟩ (.compare "id" "=" (.value (.int 7))))⟩],
    .change .update, false, none⟩

set_option maxRecDepth 20000 in
theorem renamedAccount_paired :
    renamedAccount.compile ⟨.sqlite, {}⟩ =
      .ok ⟨"WITH \"adults\" AS (SELECT * FROM users WHERE age >= ?) UPDATE \"accounts\" SET " ++
        "\"name\" = ?, \"changed\" = CURRENT_TIMESTAMP, \"visits\" = ? WHERE \"id\" = ?",
        [.int 18, .str "Ann", .int 0, .int 7]⟩ ∧
      ∃ ctes filter,
        Sql.withList .sqlite (renamedAccount.block.map (Query.subSelect ⟨.sqlite, {}⟩)).clauses =
          .ok ctes ∧
        renamedAccount.filter ⟨.sqlite, {}⟩ = .ok filter ∧
        [.int 18, .str "Ann", .int 0, .int 7] =
          ctes.bindings ++ [.str "Ann", .int 0] ++ filter.bindings := by
  have hcompile : renamedAccount.compile ⟨.sqlite, {}⟩ =
      .ok ⟨"WITH \"adults\" AS (SELECT * FROM users WHERE age >= ?) UPDATE \"accounts\" SET " ++
        "\"name\" = ?, \"changed\" = CURRENT_TIMESTAMP, \"visits\" = ? WHERE \"id\" = ?",
        [.int 18, .str "Ann", .int 0, .int 7]⟩ := by rfl
  obtain ⟨hupdate, -⟩ := row_paired hcompile
  obtain ⟨table, columns, values, ctes, filter, -, hrow, -, hctes, hfilter, -, hbindings, -⟩ :=
    hupdate rfl
  have hclause : effectiveItem renamedAccount.block.clauses "update" "sqlite" =
      some (.insert (.row ["name", "changed", "visits"]
        [.value (.str "Ann"), .raw "CURRENT_TIMESTAMP", .value (.int 0)])) := by rfl
  obtain ⟨rfl, rfl⟩ : _ ∧ _ := by simpa using hclause.symm.trans hrow
  exact ⟨hcompile, ctes, filter, hctes, hfilter, hbindings⟩

/-- A row without columns and values. -/
def emptyRow (change : Change) : Query :=
  .ofBlock ⟨[⟨"from", wildcard, .table (.named "t")⟩, rowOf change.name [] []], .change change,
    false, none⟩

/-- An empty row is not refused: an update by it assigns nothing, and an insert lists nothing. -/
theorem emptyRow_compiled :
    effectiveItem (emptyRow .update).block.clauses "update" "sqlite" =
        some (.insert (.row [] [])) ∧
      (emptyRow .update).compile ⟨.sqlite, {}⟩ = .ok ⟨"UPDATE \"t\" SET ", []⟩ ∧
      effectiveItem (emptyRow .insert).block.clauses "insert" "sqlite" =
        some (.insert (.row [] [])) ∧
      (emptyRow .insert).compile ⟨.sqlite, {}⟩ = .ok ⟨"INSERT INTO \"t\" () VALUES ()", []⟩ :=
  ⟨by rfl, by rfl, by rfl, by rfl⟩

end Example

end PolySql
