import Mathlib.Data.List.Basic
import Mathlib.Data.List.Forall2
import PolySql.Query.Induction
import PolySql.Query.PathJoin

/-!
Path joins, expanded. Main statement: each path join that the target sees is replaced, in its place,
by one explicit join per table of its path, and nothing else changes; the first one that has tables
but none to start from is refused.
-/

namespace PolySql

/-- The first setting that is made, or else the default. -/
def firstSet (settings : List (Option String)) (default : String) : String :=
  (settings.findSome? id).getD default

namespace PathJoin

variable (j : PathJoin) (o : Options) (table : String)

/-- What the dots of a path stand between, but for empty texts. -/
def segments : List String :=
  ((j.expression.toList.splitOn '.').map String.ofList).filter (· ≠ "")

/-- What names the key that refers to a table: a generator, or a suffix to the table's singular. -/
def sourceSettings [Inflection] : List (Option String) :=
  [j.sourceKeyGenerator.map (·.key table),
    j.sourceKeySuffix.map fun suffix => Inflection.singular table ++ suffix]

theorem tables_eq_segments : j.tables = j.segments := by
  rw [tables, Text.splitDots_eq, segments]

variable {j table}

theorem sourceKey_eq [Inflection] :
    j.sourceKey o table =
      firstSet (j.sourceSettings table) (Inflection.singular table ++ o.sourceKeySuffix) := by
  obtain ⟨expression, type, suffix, target, source, generator⟩ := j
  cases source with
  | some g => rfl
  | none => cases suffix <;> rfl

/-- The target's generator counts where source keys are generated, its fixed key where not. -/
theorem keyOf_eq_ite :
    j.keyOf o table =
      firstSet (if j.sourceKeyGenerator.isSome then [j.targetKeyGenerator.map (·.key table)]
        else [j.targetKey]) o.targetKey := by
  obtain ⟨expression, type, suffix, target, source, generator⟩ := j
  cases source with
  | some g => cases generator <;> rfl
  | none => cases target <;> rfl

/-- A link joins a named table on two columns, so it has no place for a query. -/
theorem nested_link [Inflection] {Q : Type} (engine source : String) :
    (j.link (Q := Q) o engine source table).item.nested = [] := by
  simp [link, Body.nested, JoinClause.nested, Table.nested, Condition.nestedMembers,
    Condition.nested, Test.nested]

end PathJoin

section Expansion

variable {Q : Type} (t : Target)

/-- A path join that the target sees. -/
def IsPath (c : Clause Q) (j : PathJoin) : Prop :=
  c.appliesTo t.engine ∧ c.item = .join (.path j)

/-- The path joins that the target sees, in their order. -/
def pathJoins (cs : List (Clause Q)) : List PathJoin := cs.filterMap (pathJoin? t)

section Base

variable [Aliased Q] (cs : List (Clause Q))

/-- The effective table, if there is one, has no name to start a path from. -/
def Baseless : Prop :=
  ∀ a, effectiveItem cs "from" t.engine = some (.table a) → a.refName = none ∨ a.refName = some ""

/-- The first path join with tables, where it has none to start from. -/
def stranded? : Option PathJoin :=
  match baseAlias t cs with
  | none => (pathJoins t cs).find? (·.tables ≠ [])
  | some _ => none

theorem baseAlias_eq_none_iff : baseAlias t cs = none ↔ Baseless t cs := by
  have hname : ∀ s : Option String, s.filter (· ≠ "") = none ↔ s = none ∨ s = some "" := by
    intro s
    cases s <;> simp
  rw [baseAlias, hname, Baseless]
  cases effectiveItem cs "from" t.engine with
  | none => simp
  | some b => cases b <;> simp [Body.refName]

variable {t cs} in
theorem exists_table_of_baseAlias {base : String} (h : baseAlias t cs = some base) :
    ∃ a, effectiveItem cs "from" t.engine = some (.table a) ∧ a.refName = some base := by
  obtain ⟨h, -⟩ := Option.filter_eq_some_iff.mp h
  obtain ⟨b, hb, hname⟩ := Option.bind_eq_some_iff.mp h
  cases b with
  | table a => exact ⟨a, hb, hname⟩
  | _ => cases hname

theorem stranded?_eq_none_iff :
    stranded? t cs = none ↔ ((∃ j ∈ pathJoins t cs, j.tables ≠ []) → ¬ Baseless t cs) := by
  rw [← baseAlias_eq_none_iff, stranded?]
  cases baseAlias t cs <;> simp

theorem stranded?_eq_some_iff {j : PathJoin} :
    stranded? t cs = some j ↔
      Baseless t cs ∧ (pathJoins t cs).find? (·.tables ≠ []) = some j := by
  rw [← baseAlias_eq_none_iff, stranded?]
  cases baseAlias t cs <;> simp

end Base

variable {t}

theorem pathJoins_eq_nil_iff {cs : List (Clause Q)} :
    pathJoins t cs = [] ↔ ∀ c ∈ cs, ∀ j, ¬ IsPath t c j := by
  simp only [pathJoins, List.filterMap_eq_nil_iff, Option.eq_none_iff_forall_ne_some, IsPath,
    ← pathJoin?_eq_some_iff, ne_eq]

/-- The first path join with tables stands behind none but path joins without. -/
theorem find?_pathJoins_eq_some_iff {cs : List (Clause Q)} {j : PathJoin} :
    (pathJoins t cs).find? (·.tables ≠ []) = some j ↔
      ∃ front c back, cs = front ++ c :: back ∧ IsPath t c j ∧ j.segments ≠ [] ∧
        ∀ d ∈ front, ∀ i, IsPath t d i → i.segments = [] := by
  simp only [pathJoins, List.find?_filterMap, Option.bind_eq_some_iff,
    List.find?_eq_some_iff_append, IsPath, ← pathJoin?_eq_some_iff, ← PathJoin.tables_eq_segments]
  constructor
  · rintro ⟨c, ⟨htables, front, back, hsplit, hfront⟩, hj⟩
    refine ⟨front, c, back, hsplit, hj, by simpa [hj] using htables, fun d hd i hi => ?_⟩
    simpa [hi] using hfront d hd
  · rintro ⟨front, c, back, hsplit, hj, htables, hfront⟩
    refine ⟨c, ⟨by simpa [hj] using htables, front, back, hsplit, fun d hd => ?_⟩, hj⟩
    cases hi : pathJoin? t d with
    | none => rfl
    | some i => simp [hfront d hd i hi]

theorem hasPathJoin_eq_false_iff (cs : List (Clause Q)) :
    hasPathJoin t cs = false ↔ pathJoins t cs = [] := by
  rw [pathJoins, List.filterMap_eq_nil_iff, hasPathJoin, List.any_eq_false]
  simp

/-- Without path joins there is none among the clauses that are seen. -/
theorem ne_path_of_visible {cs : List (Clause Q)} (h : pathJoins t cs = []) {component : String} :
    ∀ c ∈ visible cs component t.engine, ∀ j, c.item ≠ .join (.path j) := by
  intro c hc j hj
  obtain ⟨hmem, hseen⟩ := List.mem_filter.mp hc
  rw [Bool.and_eq_true] at hseen
  exact pathJoins_eq_nil_iff.mp h c hmem j ⟨hseen.2, hj⟩

section Replaced

variable [Inflection] (t)

/-- What stands for a clause once path joins start from `base`: for a path join, one join per table,
each to the table before it. -/
def replacement (base : String) (c : Clause Q) : List (Clause Q) :=
  match pathJoin? t c with
  | none => [c]
  | some j =>
    ((base :: j.tables).zip j.tables).map fun step => j.link t.options c.engine step.1 step.2

/-- The clauses with every path join that the target sees replaced in its place. -/
def expanded [Aliased Q] (cs : List (Clause Q)) : List (Clause Q) :=
  cs.flatMap (replacement t ((baseAlias t cs).getD ""))

variable {t}

theorem chain_eq_map_zip (o : Options) (j : PathJoin) (engine base : String)
    (tables : List String) :
    j.chain (Q := Q) o engine base tables =
      ((base :: tables).zip tables).map fun step => j.link o engine step.1 step.2 := by
  induction tables generalizing base with
  | nil => rfl
  | cons table rest ih => rw [PathJoin.chain, ih table, List.zip_cons_cons, List.map_cons]

theorem replacement_of_none {base : String} {c : Clause Q} (h : pathJoin? t c = none) :
    replacement t base c = [c] := by
  rw [replacement, h]

theorem expandClause_some (base : String) (c : Clause Q) :
    expandClause t (some base) c = .ok (replacement t base c) := by
  unfold expandClause replacement
  cases pathJoin? t c with
  | none => rfl
  | some j =>
    simp only
    cases j.tables with
    | nil => rfl
    | cons table rest => simp only [chain_eq_map_zip]

theorem expandClause_of_tables {c : Clause Q} (base : String)
    (h : ∀ j, pathJoin? t c = some j → j.tables = []) :
    expandClause t none c = .ok (replacement t base c) := by
  unfold expandClause replacement
  cases hj : pathJoin? t c with
  | none => rfl
  | some j => simp only [h j hj, List.zip_nil_right, List.map_nil]

theorem expandClause_stranded {c : Clause Q} {j : PathJoin} (hj : pathJoin? t c = some j)
    (h : j.tables ≠ []) : expandClause t none c = .error (.missingBaseAlias j.expression) := by
  simp only [expandClause, hj]

theorem mapM_expandClause_some (base : String) (cs : List (Clause Q)) :
    cs.mapM (expandClause t (some base)) = .ok (cs.map (replacement t base)) := by
  induction cs with
  | nil => rfl
  | cons c rest ih =>
    rw [List.mapM_cons, expandClause_some, ih]
    rfl

/-- Without a table to start from, the first path join with tables decides. -/
theorem mapM_expandClause_none (base : String) (cs : List (Clause Q)) :
    cs.mapM (expandClause t none) =
      match (pathJoins t cs).find? (·.tables ≠ []) with
      | none => .ok (cs.map (replacement t base))
      | some j => .error (.missingBaseAlias j.expression) := by
  induction cs with
  | nil => rfl
  | cons c rest ih =>
    rw [List.mapM_cons, ih]
    by_cases hstuck : ∃ j, pathJoin? t c = some j ∧ j.tables ≠ []
    · obtain ⟨j, hj, htables⟩ := hstuck
      have hfirst : (pathJoins t (c :: rest)).find? (·.tables ≠ []) = some j := by
        simp [pathJoins, hj, htables]
      rw [expandClause_stranded hj htables, hfirst]
      rfl
    · have hempty : ∀ j, pathJoin? t c = some j → j.tables = [] := by
        intro j hj
        by_contra htables
        exact hstuck ⟨j, hj, htables⟩
      have hlater : (pathJoins t (c :: rest)).find? (·.tables ≠ []) =
          (pathJoins t rest).find? (·.tables ≠ []) := by
        cases hj : pathJoin? t c with
        | none => simp [pathJoins, hj]
        | some j => simp [pathJoins, hj, hempty j hj]
      rw [expandClause_of_tables base hempty, hlater]
      cases (pathJoins t rest).find? (·.tables ≠ []) <;> rfl

theorem expandPaths_eq [Aliased Q] (cs : List (Clause Q)) :
    expandPaths t cs =
      match stranded? t cs with
      | none => .ok (expanded t cs)
      | some j => .error (.missingBaseAlias j.expression) := by
  unfold expandPaths stranded? expanded
  cases baseAlias t cs with
  | none =>
    rw [mapM_expandClause_none ""]
    cases (pathJoins t cs).find? (·.tables ≠ []) <;> rfl
  | some base =>
    rw [mapM_expandClause_some]
    rfl

/-- What stands for a clause is the clause itself, or a join of a table on its path. -/
theorem of_mem_replacement {base : String} {c d : Clause Q} (h : d ∈ replacement t base c) :
    (pathJoin? t c = none ∧ d = c) ∨
      ∃ j, pathJoin? t c = some j ∧ ∃ source ∈ base :: j.tables, ∃ table ∈ j.tables,
        d = j.link t.options c.engine source table := by
  unfold replacement at h
  cases hj : pathJoin? t c with
  | none =>
    rw [hj, List.mem_singleton] at h
    exact .inl ⟨rfl, h⟩
  | some j =>
    rw [hj] at h
    obtain ⟨⟨source, table⟩, hstep, rfl⟩ := List.mem_map.mp h
    obtain ⟨hsource, htable⟩ := List.of_mem_zip hstep
    exact .inr ⟨j, rfl, source, hsource, table, htable, rfl⟩

/-- What stands for a clause holds no path joins. -/
theorem pathJoin?_of_mem_replacement {base : String} {c d : Clause Q}
    (h : d ∈ replacement t base c) : pathJoin? t d = none := by
  obtain ⟨hnone, rfl⟩ | ⟨j, -, source, -, table, -, rfl⟩ := of_mem_replacement h
  · exact hnone
  · rfl

/-- The joins of a path are seen among joins only. -/
theorem visible_replacement_of_path {base component : String} {c : Clause Q} {j : PathJoin}
    (hj : pathJoin? t c = some j) (hcomponent : component ≠ "join") :
    visible (replacement t base c) component t.engine = [] := by
  rw [visible, List.filter_eq_nil_iff]
  intro d hd
  obtain ⟨hnone, -⟩ | ⟨i, -, source, -, table, -, rfl⟩ := of_mem_replacement hd
  · rw [hj] at hnone
    cases hnone
  · simp [PathJoin.link, hcomponent.symm]

theorem pathJoins_expanded [Aliased Q] (cs : List (Clause Q)) :
    pathJoins t (expanded t cs) = [] := by
  rw [pathJoins, List.filterMap_eq_nil_iff]
  intro d hd
  obtain ⟨c, -, hd⟩ := List.mem_flatMap.mp hd
  exact pathJoin?_of_mem_replacement hd

theorem expandPaths_eq_ok_iff [Aliased Q] {cs ds : List (Clause Q)} :
    expandPaths t cs = .ok ds ↔ stranded? t cs = none ∧ ds = expanded t cs := by
  rw [expandPaths_eq]
  cases stranded? t cs with
  | none => simp [eq_comm]
  | some j => simp

/-- Clauses without path joins are left as they are. -/
theorem expandPaths_of_pathJoins_eq_nil [Aliased Q] {cs : List (Clause Q)}
    (h : pathJoins t cs = []) : expandPaths t cs = .ok cs := by
  have hstranded : stranded? t cs = none := by
    rw [stranded?, h]
    cases baseAlias t cs <;> rfl
  have hexpanded : expanded t cs = cs := by
    rw [pathJoins, List.filterMap_eq_nil_iff] at h
    have hone : ∀ c ∈ cs, replacement t ((baseAlias t cs).getD "") c = [c] :=
      fun c hc => replacement_of_none (h c hc)
    rw [expanded, List.flatMap_congr hone, List.flatMap_singleton']
  rw [expandPaths_eq, hstranded, hexpanded]

/-- The other clauses stay, in their order. -/
theorem others_sublist_expanded [Aliased Q] (cs : List (Clause Q)) :
    (cs.filter fun c => (pathJoin? t c).isNone).Sublist (expanded t cs) := by
  unfold expanded
  generalize (baseAlias t cs).getD "" = base
  induction cs with
  | nil => exact .slnil
  | cons c rest ih =>
    rw [List.flatMap_cons, List.filter_cons]
    cases hj : pathJoin? t c with
    | none =>
      rw [replacement_of_none hj]
      exact ih.cons_cons c
    | some j => exact ih.trans (List.sublist_append_right _ _)

section Block

variable [Aliased Q] (b : Block Q)

theorem Block.expandPaths_eq_error_iff (e : CompileError) :
    b.expandPaths t = .error e ↔
      ∃ j, stranded? t b.clauses = some j ∧ e = .missingBaseAlias j.expression := by
  rw [Block.expandPaths, expandPaths_eq]
  cases stranded? t b.clauses with
  | none => simp
  | some j =>
    constructor
    · intro h
      exact ⟨j, rfl, (Except.error.inj h).symm⟩
    · rintro ⟨i, hi, rfl⟩
      rw [Option.some.inj hi]
      rfl

theorem Block.expandPaths_eq_ok_iff {b b' : Block Q} :
    b.expandPaths t = .ok b' ↔
      stranded? t b.clauses = none ∧ b' = { b with clauses := expanded t b.clauses } := by
  rw [Block.expandPaths, expandPaths_eq]
  cases stranded? t b.clauses with
  | none =>
    constructor
    · intro h
      exact ⟨rfl, (Except.ok.inj h).symm⟩
    · rintro ⟨-, rfl⟩
      rfl
  | some j =>
    refine iff_of_false nofun ?_
    rintro ⟨hnone, -⟩
    cases hnone

theorem expandPaths_of_none (h : pathJoins t b.clauses = []) : b.expandPaths t = .ok b := by
  rw [Block.expandPaths, expandPaths_of_pathJoins_eq_nil h]
  rfl

end Block

end Replaced

section Map

variable {R : Type} {f : Q → R}

theorem pathJoin?_map (c : Clause Q) : pathJoin? t (c.map (Body.map f)) = pathJoin? t c := by
  obtain ⟨component, engine, b⟩ := c
  cases b with
  | join j => cases j <;> rfl
  | _ => rfl

theorem pathJoins_map (cs : List (Clause Q)) :
    pathJoins t (cs.map (Scoped.map (Body.map f))) = pathJoins t cs := by
  simp only [pathJoins, List.filterMap_map, Function.comp_def, pathJoin?_map]

theorem replacement_map [Inflection] (base : String) (c : Clause Q) :
    replacement t base (c.map (Body.map f)) =
      (replacement t base c).map (Scoped.map (Body.map f)) := by
  unfold replacement
  rw [pathJoin?_map]
  cases pathJoin? t c with
  | none => rfl
  | some j =>
    have hlink : ∀ source table,
        (j.link (Q := Q) t.options c.engine source table).map (Body.map f) =
          j.link t.options c.engine source table := by
      intro source table
      simp [PathJoin.link, Scoped.map, Body.map, JoinClause.map, Join.map, Table.map, Condition.map,
        Test.map]
    simp only [List.map_map, Function.comp_def, hlink]
    rfl

variable [Aliased Q] [Aliased R] (hf : ∀ q, aliasName? (f q) = aliasName? q)

include hf

theorem refName_map (a : Table Q) : (a.map f).refName = a.refName := by
  cases a with
  | derived query aliasName => simp only [Table.map, Table.refName, hf]
  | _ => rfl

theorem baseAlias_map (cs : List (Clause Q)) :
    baseAlias t (cs.map (Scoped.map (Body.map f))) = baseAlias t cs := by
  have hname : ∀ b : Body Q, (b.map f).refName = b.refName := by
    intro b
    cases b with
    | table a => exact refName_map hf a
    | _ => rfl
  simp only [baseAlias, effectiveItem_map, Option.bind_map, Function.comp_def, hname]

theorem expanded_map [Inflection] (cs : List (Clause Q)) :
    expanded t (cs.map (Scoped.map (Body.map f))) =
      (expanded t cs).map (Scoped.map (Body.map f)) := by
  simp only [expanded, baseAlias_map hf, List.flatMap_map, replacement_map, List.map_flatMap]

theorem stranded?_map (cs : List (Clause Q)) :
    stranded? t (cs.map (Scoped.map (Body.map f))) = stranded? t cs := by
  simp only [stranded?, baseAlias_map hf, pathJoins_map]

end Map

end Expansion

section Spelled

variable {Q : Type}

/-- The join of `table` where two columns are equal. -/
def joinOn (engine : String) (type : JoinType) (table first second : String) : Clause Q :=
  ⟨"join", engine, .join (.explicit
    ⟨type, ⟨"from", wildcard, .named table⟩,
      [⟨"where", wildcard, .test ⟨false, false⟩ (.columns first "=" second)⟩]⟩)⟩

variable [Inflection] (t : Target)

theorem link_eq_joinOn (j : PathJoin) (engine source table : String) :
    j.link (Q := Q) t.options engine source table =
      joinOn engine j.type table
        (source ++ "." ++ firstSet (j.sourceSettings table)
          (Inflection.singular table ++ t.options.sourceKeySuffix))
        (table ++ "." ++ firstSet
          (if j.sourceKeyGenerator.isSome then [j.targetKeyGenerator.map (·.key table)]
            else [j.targetKey]) t.options.targetKey) := by
  rw [PathJoin.link, PathJoin.sourceKey_eq, PathJoin.keyOf_eq_ite, joinOn]

variable [Aliased Q] (cs : List (Clause Q))

/-- The clauses that one clause of `cs` expands to. A path join that the target sees is replaced by
a join of each table on the path, in the engine and of the type of the path join. It compares the
key in the table before, which for the first one is the effective table, to the key of the table
itself. -/
inductive ExpandsTo : Clause Q → List (Clause Q) → Prop
  | other {c : Clause Q} (hother : ∀ j, ¬ IsPath t c j) : ExpandsTo c [c]
  | path {c : Clause Q} {j : PathJoin} {base : String} (hpath : IsPath t c j)
    (hbase : j.segments ≠ [] →
      ∃ a, effectiveItem cs "from" t.engine = some (.table a) ∧ a.refName = some base) :
    ExpandsTo c (((base :: j.segments).zip j.segments).map fun (source, table) =>
      joinOn c.engine j.type table
        (source ++ "." ++ firstSet (j.sourceSettings table)
          (Inflection.singular table ++ t.options.sourceKeySuffix))
        (table ++ "." ++ firstSet
          (if j.sourceKeyGenerator.isSome then [j.targetKeyGenerator.map (·.key table)]
            else [j.targetKey]) t.options.targetKey))

variable {t cs}

theorem expandsTo_replacement {c : Clause Q} (hc : c ∈ cs) (h : stranded? t cs = none) :
    ExpandsTo t cs c (replacement t ((baseAlias t cs).getD "") c) := by
  unfold replacement
  cases hj : pathJoin? t c with
  | none =>
    refine .other fun j hpath => ?_
    rw [pathJoin?_eq_some_iff.mpr hpath] at hj
    cases hj
  | some j =>
    simp only [link_eq_joinOn, j.tables_eq_segments]
    refine .path (pathJoin?_eq_some_iff.mp hj) fun hsegments => ?_
    have hbased : ¬ Baseless t cs := by
      refine (stranded?_eq_none_iff t cs).mp h ⟨j, List.mem_filterMap.mpr ⟨c, hc, hj⟩, ?_⟩
      rwa [j.tables_eq_segments]
    rw [← baseAlias_eq_none_iff] at hbased
    obtain ⟨base, hbase⟩ := Option.ne_none_iff_exists'.mp hbased
    rw [hbase]
    exact exists_table_of_baseAlias hbase

end Spelled

/-- Expansion is refused exactly if a path join that the target sees has tables but the effective
table has no name to start from, and the first such path join is named. Otherwise nothing but the
clauses changes: each path join that the target sees is replaced in its place by the joins along its
path, all other clauses stay in their order, and there is nothing left to expand. Only without path
joins is everything left as it is. -/
theorem expandPaths_complete [Inflection] (t : Target) (q : Query) :
    (∀ e, q.block.expandPaths t = .error e ↔
      Baseless t q.block.clauses ∧
        ∃ front c back j, q.block.clauses = front ++ c :: back ∧ IsPath t c j ∧ j.segments ≠ [] ∧
          (∀ d ∈ front, ∀ i, IsPath t d i → i.segments = []) ∧
          e = .missingBaseAlias j.expression) ∧
    (∀ b, q.block.expandPaths t = .ok b →
      (∃ parts, List.Forall₂ (ExpandsTo t q.block.clauses) q.block.clauses parts ∧
        b = { q.block with clauses := parts.flatten }) ∧
      (∀ others : List (Clause Query), others.Sublist q.block.clauses →
        (∀ c ∈ others, ∀ j, ¬ IsPath t c j) → others.Sublist b.clauses) ∧
      (∀ c ∈ b.clauses, ∀ j, ¬ IsPath t c j) ∧ b.expandPaths t = .ok b) ∧
    (q.block.expandPaths t = .ok q.block ↔ hasPathJoin t q.block.clauses = false) ∧
    (hasPathJoin t q.block.clauses = false ↔ ∀ c ∈ q.block.clauses, ∀ j, ¬ IsPath t c j) := by
  refine ⟨fun e => ?_, fun b h => ?_, ?_, ?_⟩
  · simp only [Block.expandPaths_eq_error_iff, stranded?_eq_some_iff, find?_pathJoins_eq_some_iff]
    constructor
    · rintro ⟨j, ⟨hbaseless, front, c, back, hsplit, hpath, hsegments, hfront⟩, he⟩
      exact ⟨hbaseless, front, c, back, j, hsplit, hpath, hsegments, hfront, he⟩
    · rintro ⟨hbaseless, front, c, back, j, hsplit, hpath, hsegments, hfront, he⟩
      exact ⟨j, ⟨hbaseless, front, c, back, hsplit, hpath, hsegments, hfront⟩, he⟩
  · obtain ⟨hstranded, rfl⟩ := Block.expandPaths_eq_ok_iff.mp h
    have hnone := pathJoins_expanded (t := t) q.block.clauses
    refine ⟨⟨q.block.clauses.map (replacement t ((baseAlias t q.block.clauses).getD "")), ?_, ?_⟩,
      fun others hothers hplain => ?_, pathJoins_eq_nil_iff.mp hnone, expandPaths_of_none _ hnone⟩
    · rw [List.forall₂_map_right_iff, List.forall₂_same]
      exact fun c hc => expandsTo_replacement hc hstranded
    · rw [expanded, List.flatMap_def]
    · rw [← pathJoins_eq_nil_iff, pathJoins, List.filterMap_eq_nil_iff] at hplain
      have hkept := hothers.filter fun c => (pathJoin? t c).isNone
      rw [List.filter_eq_self.mpr fun c hc => by rw [hplain c hc]; rfl] at hkept
      exact hkept.trans (others_sublist_expanded _)
  · rw [hasPathJoin_eq_false_iff]
    refine ⟨fun h => ?_, expandPaths_of_none q.block⟩
    obtain ⟨-, hsame⟩ := Block.expandPaths_eq_ok_iff.mp h
    rw [congrArg Block.clauses hsame]
    exact pathJoins_expanded q.block.clauses
  · rw [hasPathJoin_eq_false_iff, pathJoins_eq_nil_iff]

/-- The path from posts to the books of their authors. -/
def authorsBooks : PathJoin := ⟨"Author..Books", .left, none, none, none, none⟩

/-- The books of the authors of posts, and for another engine the shops that posts are about. -/
def booksOfPosts : Query :=
  .ofBlock ⟨[⟨"join", "postgres", .join (.path ⟨"Shops", .inner, none, none, none, none⟩)⟩,
    ⟨"from", wildcard, .table (.named "Posts as P")⟩,
    ⟨"join", "sqlite", .join (.path authorsBooks)⟩, ⟨"lock", wildcard, .lock .share⟩],
    .select, false, none⟩

set_option maxRecDepth 20000 in
theorem booksOfPosts_expanded :
    ∃ b, booksOfPosts.block.expandPaths ⟨.sqlite, {}⟩ = .ok b ∧
      b.clauses = [⟨"join", "postgres", .join (.path ⟨"Shops", .inner, none, none, none, none⟩)⟩,
        ⟨"from", wildcard, .table (.named "Posts as P")⟩,
        joinOn "sqlite" .left "Author" "P.AuthorId" "Author.Id",
        joinOn "sqlite" .left "Books" "Author.BookId" "Books.Id",
        ⟨"lock", wildcard, .lock .share⟩] ∧
      (∀ c ∈ b.clauses, ∀ j, ¬ IsPath ⟨.sqlite, {}⟩ c j) ∧ b.expandPaths ⟨.sqlite, {}⟩ = .ok b := by
  obtain ⟨-, hok, -⟩ := expandPaths_complete ⟨.sqlite, {}⟩ booksOfPosts
  have hrun : booksOfPosts.block.expandPaths ⟨.sqlite, {}⟩ =
      .ok ⟨expanded ⟨.sqlite, {}⟩ booksOfPosts.block.clauses, .select, false, none⟩ := by rfl
  obtain ⟨-, -, hnone, hagain⟩ := hok _ hrun
  exact ⟨_, hrun, by rfl, hnone, hagain⟩

end PolySql
