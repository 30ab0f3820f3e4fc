import PolySql.Model.Scalar
import PolySql.Proofs.Expansion
import PolySql.Proofs.Sentence
import PolySql.Sql.Statement

/-!
The keys that a path of joins compares. The left side of every join takes its key from the settings
for the source, the right side from those for the target; the first one that is made counts. Main
statement: neither side hangs on the settings of the other one, but that a fixed target key gives
way where keys are generated.
-/

namespace PolySql

namespace PathJoin

variable (j : PathJoin) (table : String)

/-- What names the key of the table itself. A fixed key gives way where keys are generated. -/
def targetSettings : List (Option String) :=
  [j.targetKeyGenerator.map (·.key table),
    if j.sourceKeyGenerator.isSome then none else j.targetKey]

/-- Target keys are generated only where source keys are. -/
def GeneratesBoth : Prop := j.targetKeyGenerator.isSome → j.sourceKeyGenerator.isSome

variable {j table} (o : Options)

theorem keyOf_eq (h : j.GeneratesBoth) :
    j.keyOf o table = firstSet (j.targetSettings table) o.targetKey := by
  obtain ⟨expression, type, suffix, target, source, generator⟩ := j
  cases source with
  | some g => cases generator <;> rfl
  | none =>
    cases generator with
    | some g => exact absurd (h rfl) Bool.false_ne_true
    | none => cases target <;> rfl

/-- The settings for the source keep the target key unless they turn the generation of keys on or
off, and even then if the target key is not set. -/
theorem keyOf_of_source (suffix : Option String) (generator : Option KeyGenerator)
    (h : generator.isSome = j.sourceKeyGenerator.isSome ∨
      j.targetKey = none ∧ j.targetKeyGenerator = none) :
    { j with sourceKeySuffix := suffix, sourceKeyGenerator := generator }.keyOf o table =
      j.keyOf o table := by
  obtain ⟨expression, type, ownSuffix, target, source, targetGenerator⟩ := j
  rcases h with h | ⟨rfl, rfl⟩
  · cases generator with
    | none =>
      cases source with
      | none => rfl
      | some g => cases h
    | some g =>
      cases source with
      | none => cases h
      | some g' => cases targetGenerator <;> rfl
  · cases generator <;> cases source <;> rfl

end PathJoin

section Sides

variable {Q : Type}

/-- The two columns that a join of a path compares, that of the table before it first. -/
def Body.compared? : Body Q → Option (String × String)
  | .join (.explicit ⟨_, _, [⟨_, _, .test _ (.columns first _ second)⟩]⟩) => some (first, second)
  | _ => none

def leftSide (c : Clause Q) : Option String := c.item.compared?.map Prod.fst

def rightSide (c : Clause Q) : Option String := c.item.compared?.map Prod.snd

variable {t : Target} {β : Type} (view : Clause Q → β)

/-- A view of what stands for a path join shows two path joins alike if it shows the joins of their
tables alike. -/
theorem map_expandClause_path [Inflection] {j j' : PathJoin} (hpath : j.expression = j'.expression)
    {component engine : String}
    (hlink : ∀ source table, view (j.link t.options engine source table) =
      view (j'.link t.options engine source table))
    (hpaths : view ⟨component, engine, .join (.path j)⟩ =
      view ⟨component, engine, .join (.path j')⟩) (base? : Option String) :
    List.map view <$> expandClause t base? ⟨component, engine, .join (.path j)⟩ =
      List.map view <$> expandClause t base? ⟨component, engine, .join (.path j')⟩ := by
  have htables : j.tables = j'.tables := by rw [PathJoin.tables, PathJoin.tables, hpath]
  by_cases hseen : (engine == wildcard || engine == t.engine) = true
  · have hchain : ∀ base tables, (j.chain t.options engine base tables).map view =
        (j'.chain t.options engine base tables).map view := by
      intro base tables
      simp only [chain_eq_map_zip, List.map_map, Function.comp_def, hlink]
    simp only [expandClause, pathJoin?, Scoped.appliesTo, hseen, if_true, htables, hpath]
    cases j'.tables with
    | nil => rfl
    | cons table rest =>
      cases base? with
      | none => rfl
      | some base => exact congrArg Except.ok (hchain base (table :: rest))
  · simp only [expandClause, pathJoin?, Scoped.appliesTo, hseen]
    exact congrArg (fun b => Except.ok [b]) hpaths

variable [Aliased Q]

/-- Only the names of tables count for the table that a path starts from. -/
theorem baseAlias_congr {cs ds : List (Clause Q)}
    (h : cs.map (Scoped.map Body.refName) = ds.map (Scoped.map Body.refName)) :
    baseAlias t cs = baseAlias t ds := by
  have hjoin : ∀ es : List (Clause Q), baseAlias t es =
      ((effectiveItem (es.map (Scoped.map Body.refName)) "from" t.engine).bind id).filter
        (· ≠ "") := by
    intro es
    rw [effectiveItem_map, Option.bind_map]
    rfl
  rw [hjoin, hjoin, h]

theorem map_expandPaths [Inflection] (cs : List (Clause Q)) :
    List.map view <$> expandPaths t cs =
      List.flatten <$> cs.mapM fun c => List.map view <$> expandClause t (baseAlias t cs) c := by
  have hmapM : ∀ (base? : Option String) (ds : List (Clause Q)),
      (ds.mapM fun c => List.map view <$> expandClause t base? c) =
        List.map (List.map view) <$> ds.mapM (expandClause t base?) := by
    intro base? ds
    induction ds with
    | nil => rfl
    | cons d ds ih =>
      rw [List.mapM_cons, List.mapM_cons, ih]
      cases expandClause t base? d with
      | error e => rfl
      | ok es => cases ds.mapM (expandClause t base?) <;> rfl
  rw [expandPaths, hmapM]
  cases cs.mapM (expandClause t (baseAlias t cs)) with
  | error e => rfl
  | ok ds => exact congrArg Except.ok List.map_flatten

/-- Clauses with a place for a path join among them. -/
structure PathPlace (Q : Type) where
  before : List (Clause Q)
  component : String
  engine : String
  after : List (Clause Q)

namespace PathPlace

variable (p : PathPlace Q)

def path (j : PathJoin) : Clause Q := ⟨p.component, p.engine, .join (.path j)⟩

def clauses (j : PathJoin) : List (Clause Q) := p.before ++ p.path j :: p.after

/-- The name of the table that paths start from. -/
def base (t : Target) (j : PathJoin) : String := (baseAlias t (p.clauses j)).getD ""

/-- Path joins that a view shows alike in their place are shown alike among other clauses. -/
theorem map_expandPaths_clauses [Inflection] {j j' : PathJoin}
    (hpath : j.expression = j'.expression)
    (hlink : ∀ source table, view (j.link t.options p.engine source table) =
      view (j'.link t.options p.engine source table))
    (hview : view (p.path j) = view (p.path j')) :
    List.map view <$> expandPaths t (p.clauses j) =
      List.map view <$> expandPaths t (p.clauses j') := by
  have hbase : baseAlias t (p.clauses j) = baseAlias t (p.clauses j') := by
    refine baseAlias_congr ?_
    simp only [clauses, List.map_append, List.map_cons]
    rfl
  rw [map_expandPaths, map_expandPaths, hbase]
  simp only [clauses, List.mapM_append, List.mapM_cons, path,
    map_expandClause_path view hpath hlink hview]

theorem expanded_clauses [Inflection] {j : PathJoin} {ds : List (Clause Q)}
    (hseen : p.engine = wildcard ∨ p.engine = t.engine)
    (h : expandPaths t (p.clauses j) = .ok ds) :
    ds = p.before.flatMap (replacement t (p.base t j)) ++
      ((p.base t j :: j.tables).zip j.tables).map
        (fun step => j.link t.options p.engine step.1 step.2) ++
      p.after.flatMap (replacement t (p.base t j)) := by
  obtain ⟨-, rfl⟩ := expandPaths_eq_ok_iff.mp h
  have hpath : pathJoin? t (p.path j) = some j := by
    rw [pathJoin?_eq_some_iff]
    exact ⟨by simpa [path, Scoped.appliesTo] using hseen, rfl⟩
  rw [expanded, ← base]
  generalize p.base t j = base
  rw [clauses, List.flatMap_append, List.flatMap_cons, List.append_assoc]
  simp only [replacement, hpath]
  rfl

end PathPlace

end Sides

/-- The joins of a path take the keys of their left sides from the settings for the source, in this
order: a generator, the suffix, the default suffix. They take those of their right sides from the
settings for the target: a generator, a fixed key unless source keys are generated, the default key.
So other settings for the target leave all left sides as they are; and other settings for the
source leave all right sides as they are, unless they turn the generation of keys on or off where
the target has settings of its own. -/
theorem path_sides_configured [Inflection] (t : Target) (p : PathPlace Query) (j : PathJoin) :
    (∀ ds, p.engine = wildcard ∨ p.engine = t.engine → expandPaths t (p.clauses j) = .ok ds →
      ∃ joins,
        ds = p.before.flatMap (replacement t (p.base t j)) ++ joins ++
          p.after.flatMap (replacement t (p.base t j)) ∧
        joins.map leftSide = ((p.base t j :: j.tables).zip j.tables).map (fun step =>
          some (step.1 ++ "." ++ firstSet (j.sourceSettings step.2)
            (Inflection.singular step.2 ++ t.options.sourceKeySuffix))) ∧
        (j.GeneratesBoth → joins.map rightSide = j.tables.map fun table =>
          some (table ++ "." ++ firstSet (j.targetSettings table) t.options.targetKey))) ∧
    (∀ key generator, List.map leftSide <$> expandPaths t
        (p.clauses { j with targetKey := key, targetKeyGenerator := generator }) =
      List.map leftSide <$> expandPaths t (p.clauses j)) ∧
    ∀ suffix generator, (generator.isSome = j.sourceKeyGenerator.isSome ∨
        j.targetKey = none ∧ j.targetKeyGenerator = none) →
      List.map rightSide <$> expandPaths t
          (p.clauses { j with sourceKeySuffix := suffix, sourceKeyGenerator := generator }) =
        List.map rightSide <$> expandPaths t (p.clauses j) := by
  refine ⟨fun ds hseen h => ?_, fun key generator => ?_, fun suffix generator hsame => ?_⟩
  · refine ⟨_, p.expanded_clauses hseen h, ?_, fun hboth => ?_⟩
    · rw [List.map_map]
      refine List.map_congr_left fun step _ => ?_
      rw [← PathJoin.sourceKey_eq]
      rfl
    · have htables : ((p.base t j :: j.tables).zip j.tables).map Prod.snd = j.tables :=
        List.map_snd_zip (Nat.le_succ _)
      rw [List.map_map, ← htables, List.map_map, htables]
      refine List.map_congr_left fun step _ => ?_
      simp only [Function.comp_apply, ← PathJoin.keyOf_eq t.options hboth]
      rfl
  · exact p.map_expandPaths_clauses leftSide rfl (fun source table => rfl) rfl
  · refine p.map_expandPaths_clauses rightSide rfl (fun source table => ?_) rfl
    exact congrArg (fun key => some (table ++ "." ++ key))
      (PathJoin.keyOf_of_source t.options suffix generator hsame)

/-- Posts under a name of their own, and a place for what they are joined to. -/
def postsPlace : PathPlace Query :=
  ⟨[⟨"from", wildcard, .table (.named "posts as p")⟩], "join", wildcard, []⟩

/-- From posts to the countries of their authors, by generated keys on both sides. -/
def countryPath : PathJoin :=
  ⟨"author.country", .left, some "_id", none, some (Read.affixGenerator "" "_fk"),
    some (Read.affixGenerator "" "_pk")⟩

set_option maxRecDepth 20000 in
theorem countryPath_sides :
    (∃ joins : List (Clause Query),
      expandPaths ⟨.sqlite, {}⟩ (postsPlace.clauses countryPath) =
        .ok (⟨"from", wildcard, .table (.named "posts as p")⟩ :: joins) ∧
      joins.map leftSide = [some "p.author_fk", some "author.country_fk"] ∧
      joins.map rightSide = [some "author.author_pk", some "country.country_pk"]) ∧
    List.map rightSide <$> expandPaths ⟨.sqlite, {}⟩ (postsPlace.clauses
        { countryPath with
          sourceKeySuffix := none, sourceKeyGenerator := some Read.upperGenerator }) =
      .ok [none, some "author.author_pk", some "country.country_pk"] := by
  obtain ⟨hsides, -, hright⟩ := path_sides_configured ⟨.sqlite, {}⟩ postsPlace countryPath
  have hrun : expandPaths ⟨.sqlite, {}⟩ (postsPlace.clauses countryPath) =
      .ok (expanded ⟨.sqlite, {}⟩ (postsPlace.clauses countryPath)) :=
    expandPaths_eq_ok_iff.mpr ⟨by decide +kernel, rfl⟩
  obtain ⟨joins, hds, hleft, hown⟩ := hsides _ (.inl rfl) hrun
  have hsame := hright none (some Read.upperGenerator) (.inl rfl)
  have hrights := hown fun _ => rfl
  have htables : countryPath.tables = ["author", "country"] := by decide +kernel
  have hbase : postsPlace.base ⟨.sqlite, {}⟩ countryPath = "p" := by decide +kernel
  rw [htables] at hleft hrights
  rw [hbase] at hleft hds
  have hclauses : expanded ⟨.sqlite, {}⟩ (postsPlace.clauses countryPath) =
      ⟨"from", wildcard, .table (.named "posts as p")⟩ :: joins := by
    rw [hds, postsPlace, List.flatMap_singleton, List.flatMap_nil, List.append_nil]
    rfl
  refine ⟨⟨joins, ?_, hleft, hrights⟩, ?_⟩
  · rw [hrun, hclauses]
  · rw [hsame, hrun, hclauses]
    exact congrArg (fun rights => Except.ok (none :: rights)) hrights

/-- From posts to their authors, by a fixed key of the author and a key of the post that is
generated or not. -/
def authorPath (generator : Option KeyGenerator) : PathJoin :=
  ⟨"author", .inner, none, some "pk", generator, none⟩

set_option maxRecDepth 20000 in
/-- The fixed key counts until source keys are generated. Then the default key takes its place,
although the fixed key is the first setting for the target that is made. -/
theorem authorPath_key_gives_way :
    List.map rightSide <$> expandPaths ⟨.sqlite, {}⟩ (postsPlace.clauses (authorPath none)) =
        .ok [none, some "author.pk"] ∧
      List.map rightSide <$> expandPaths ⟨.sqlite, {}⟩
          (postsPlace.clauses (authorPath (some Read.upperGenerator))) =
        .ok [none, some "author.Id"] ∧
      firstSet [(authorPath (some Read.upperGenerator)).targetKeyGenerator.map (·.key "author"),
        (authorPath (some Read.upperGenerator)).targetKey] "Id" = "pk" ∧
      (Query.ofBlock ⟨postsPlace.clauses (authorPath (some Read.upperGenerator)), .select, false,
          none⟩).compile ⟨.sqlite, {}⟩ =
        .ok ⟨"SELECT * FROM \"posts\" AS \"p\" " ++
          "INNER JOIN \"author\" ON \"p\".\"AUTHOR\" = \"author\".\"Id\"", []⟩ := by
  exact ⟨by rfl, by rfl, by rfl, eq_ok_of_text (by decide +kernel)⟩

end PolySql
