import PolySql.Options
import PolySql.Error
import PolySql.Query.Lookup
import PolySql.Text.Singular
import PolySql.Text.Split

/-!
Path joins, expanded into one explicit join per table of the path. Each join refers to the table
before it, the first to the effective table of the query, by a key named after its own table. How a
table is called in the singular is left open until all of it is in place.
-/

namespace PolySql

/-- How names of tables are put in the singular. -/
class Inflection where
  singular : String → String

/-- The name by which other clauses refer to a table. -/
def Table.refName {Q : Type} [Aliased Q] : Table Q → Option String
  | .base => none
  | .named table =>
    match Text.splitAlias table with
    | _ :: name :: rest => some (Text.strip ((name :: rest).getLast (List.cons_ne_nil _ _)))
    | _ => some table
  | .verbatim _ aliasName => aliasName
  | .derived query aliasName => (aliasName.filter (· ≠ "")).or (aliasName? query)

def Body.refName {Q : Type} [Aliased Q] : Body Q → Option String
  | .table t => t.refName
  | _ => none

namespace PathJoin

variable (o : Options) (j : PathJoin)

/-- The tables on the path; dots next to each other count as one. -/
def tables : List String := (Text.splitDots j.expression).filter (· ≠ "")

/-- The key of the table before `table` that refers to `table`. -/
def sourceKey [Inflection] (table : String) : String :=
  match j.sourceKeyGenerator with
  | some g => g.key table
  | none => Inflection.singular table ++ j.sourceKeySuffix.getD o.sourceKeySuffix

/-- The key of `table` itself. A generator counts only beside one for the source key. -/
def keyOf (table : String) : String :=
  match j.sourceKeyGenerator, j.targetKeyGenerator with
  | some _, some g => g.key table
  | some _, none => o.targetKey
  | none, _ => j.targetKey.getD o.targetKey

variable {Q : Type} (engine : String)

/-- The join of `table` to `source`. -/
def link [Inflection] (source table : String) : Clause Q :=
  let on : Condition Q := .test ⟨false, false⟩
    (.columns (source ++ "." ++ j.sourceKey o table) "=" (table ++ "." ++ j.keyOf o table))
  ⟨"join", engine, .join (.explicit
    ⟨j.type, ⟨"from", wildcard, .named table⟩, [⟨"where", wildcard, on⟩]⟩)⟩

def chain [Inflection] (source : String) : List String → List (Clause Q)
  | [] => []
  | table :: rest => j.link o engine source table :: chain table rest

end PathJoin

section Expand

variable {Q : Type} (t : Target)

/-- The path join of a clause that the engine sees. -/
def pathJoin? (c : Clause Q) : Option PathJoin :=
  match c.item with
  | .join (.path j) => if c.appliesTo t.engine then some j else none
  | _ => none

variable {t} {c : Clause Q}

/-- Only clauses that the target sees are expanded. -/
theorem pathJoin?_eq_some_iff {j : PathJoin} :
    pathJoin? t c = some j ↔ c.appliesTo t.engine ∧ c.item = .join (.path j) := by
  unfold pathJoin?
  split
  · next hitem =>
    rw [Option.ite_none_right_eq_some, Option.some.injEq, hitem, Body.join.injEq,
      JoinClause.path.injEq]
  · next hother =>
    refine iff_of_false nofun ?_
    rintro ⟨-, hitem⟩
    exact hother j hitem

theorem pathJoin?_of_unseen (h : ¬ c.appliesTo t.engine) : pathJoin? t c = none :=
  Option.eq_none_iff_forall_ne_some.mpr fun _ hj => h (pathJoin?_eq_some_iff.mp hj).1

variable (t)

def hasPathJoin (cs : List (Clause Q)) : Bool := cs.any fun c => (pathJoin? t c).isSome

/-- The clauses that stand for one clause of a query whose effective table is called `base?`. -/
def expandClause [Inflection] (base? : Option String) (c : Clause Q) :
    Except CompileError (List (Clause Q)) :=
  match pathJoin? t c with
  | none => .ok [c]
  | some j =>
    match j.tables, base? with
    | [], _ => .ok []
    | _, none => .error (.missingBaseAlias j.expression)
    | tables, some base => .ok (j.chain t.options c.engine base tables)

variable [Aliased Q]

def baseAlias (cs : List (Clause Q)) : Option String :=
  ((effectiveItem cs "from" t.engine).bind Body.refName).filter (· ≠ "")

/-- The clauses with every visible path join replaced, in its place, by its chain of joins. -/
def expandPaths [Inflection] (cs : List (Clause Q)) : Except CompileError (List (Clause Q)) :=
  List.flatten <$> cs.mapM (expandClause t (baseAlias t cs))

def Block.expandPaths [Inflection] (b : Block Q) : Except CompileError (Block Q) :=
  (fun cs => { b with clauses := cs }) <$> PolySql.expandPaths t b.clauses

end Expand

/-- Tables are called by English nouns. -/
instance : Inflection := ⟨Text.singular⟩

end PolySql
