import PolySql.Sql.Table

/-!
SELECT statements: the parts in their fixed order, each stripped, blank ones left out.
-/

namespace PolySql.Sql

variable (t : Target)

/-- The effective window; a clause of another kind in its place is refused. -/
def windowOf (cs : List (Clause SubSelect)) : Except CompileError (Option Window) :=
  match effectiveItem cs "limit" t.engine with
  | none => .ok none
  | some (.window w) => .ok (some w)
  | some body => .error (.unrecognized body.kind .limit)

def lockOf (cs : List (Clause SubSelect)) : Except CompileError (Option LockMode) :=
  match effectiveItem cs "lock" t.engine with
  | none => .ok none
  | some (.lock mode) => .ok (some mode)
  | some body => .error (.unrecognized body.kind .lock)

/-- What follows SELECT in front of the columns. -/
def topPart (window : Option Window) : Fragment :=
  match window.bind t.dialect.top with
  | none => ∅
  | some top => top ++ " "

def aggregatePart (window : Option Window) (isDistinct : Bool) (cs : List (Clause SubSelect)) :
    Except CompileError Fragment :=
  match effectiveItem cs "aggregate" t.engine with
  | none => .ok ∅
  | some (.aggregate a) =>
    let columns := t.dialect.identifiers (if a.columns.isEmpty then ["*"] else a.columns)
    let distinct := if isDistinct && columns ≠ "*" then "DISTINCT " else ""
    let aliasName := (a.aliasName.filter (· ≠ "")).getD t.options.aggregateAlias
    .ok ("SELECT " ++ topPart t window ++ Text.upper a.function ++ "(" ++ distinct ++ columns ++
      ") AS " ++ t.dialect.quote aliasName)
  | some body => .error (.unrecognized body.kind .aggregate)

def columnsPart (window : Option Window) (isDistinct : Bool) (cs : List (Clause SubSelect)) :
    Except CompileError Fragment :=
  if anyVisible cs "aggregate" t.engine || !anyVisible cs "select" t.engine then .ok ∅
  else do
    let list ← columns t.dialect (visible cs "select" t.engine)
    let list := if list.text = "" then list ++ "*" else list
    return "SELECT " ++ (if isDistinct then "DISTINCT " else "") ++ topPart t window ++ list

def fromPart (cs : List (Clause SubSelect)) : Except CompileError Fragment :=
  match effectiveItem cs "from" t.engine with
  | none => .ok ∅
  | some body => do
    let sql ← tableOf t.dialect body
    return "FROM " ++ sql

def joinPart (cs : List (Clause SubSelect)) : Except CompileError Fragment :=
  .separated " " <$> (visible cs "join" t.engine).mapM fun c => join t.dialect c.item

/-- The filter, only for a statement that has a table. -/
def wherePart (cs : List (Clause SubSelect)) : Except CompileError Fragment :=
  if anyVisible cs "from" t.engine then do
    let terms ← (visible cs "where" t.engine).mapM (clauseTerm t.dialect)
    let sql := connect "" terms
    return if sql.text = "" then sql else "WHERE " ++ sql
  else .ok ∅

def groupPart (cs : List (Clause SubSelect)) : Except CompileError Fragment :=
  match visible cs "group" t.engine with
  | [] => .ok ∅
  | groups => do
    let list ← columns t.dialect groups
    return "GROUP BY " ++ list

theorem groupPart_eq_ite (cs : List (Clause SubSelect)) :
    groupPart t cs = if anyVisible cs "group" t.engine then do
        let list ← columns t.dialect (visible cs "group" t.engine)
        return "GROUP BY " ++ list
      else .ok ∅ := by
  have hseen := anyVisible_iff cs "group" t.engine
  unfold groupPart
  split
  · next hnil => rw [if_neg fun h => hseen.mp h hnil]
  · next hsome => rw [if_pos (hseen.mpr hsome)]

/-- The filter of groups; its keyword is repeated in front of every condition. -/
def havingPart (cs : List (Clause SubSelect)) : Except CompileError Fragment :=
  connect "HAVING " <$> (visible cs "having" t.engine).mapM (clauseTerm t.dialect)

def orderItem (body : Body SubSelect) : Except CompileError Fragment :=
  match body with
  | .order (.column column ascending) =>
    .ok (t.dialect.identifier column ++ (if ascending then "" else " DESC"))
  | .order (.verbatim sql) => t.dialect.verbatim sql
  | .order (.random seed) => .ok (t.dialect.random seed)
  | body => .error (.unrecognized body.kind .order)

def orderPart (cs : List (Clause SubSelect)) : Except CompileError Fragment :=
  match visible cs "order" t.engine with
  | [] => .ok ∅
  | items => do
    let items ← items.mapM fun c => orderItem t c.item
    return "ORDER BY " ++ Fragment.separated ", " items

theorem orderPart_eq_ite (cs : List (Clause SubSelect)) :
    orderPart t cs = if anyVisible cs "order" t.engine then do
        let items ← (visible cs "order" t.engine).mapM fun c => orderItem t c.item
        return "ORDER BY " ++ Fragment.separated ", " items
      else .ok ∅ := by
  have hseen := anyVisible_iff cs "order" t.engine
  unfold orderPart
  split
  · next hnil => rw [if_neg fun h => hseen.mp h hnil]
  · next hsome => rw [if_pos (hseen.mpr hsome)]

def setKeyword : SetOperation → String
  | .union => "UNION"
  | .intersect => "INTERSECT"
  | .except => "EXCEPT"

def union (body : Body SubSelect) : Except CompileError Fragment :=
  match body with
  | .union (.operand operation all query) => do
    let sql ← query.select
    return setKeyword operation ++ (if all then " ALL " else " ") ++ sql
  | .union (.verbatim sql) => t.dialect.verbatim sql
  | body => .error (.unrecognized body.kind .union)

def unionPart (cs : List (Clause SubSelect)) : Except CompileError Fragment :=
  .separated " " <$> (visible cs "union" t.engine).mapM fun c => union t c.item

/-- The column that stands for all columns. -/
def allColumns : Clause SubSelect := ⟨"select", wildcard, .column (.named "*")⟩

/-- A select over clauses without visible path joins. -/
def selectExpanded (isDistinct : Bool) (cs : List (Clause SubSelect)) :
    Except CompileError Fragment := do
  let cs := if anyVisible cs "select" t.engine then cs else cs ++ [allColumns]
  let window ← windowOf t cs
  let mode ← lockOf t cs
  let parts ← [
    aggregatePart t window isDistinct cs,
    columnsPart t window isDistinct cs,
    fromPart t cs,
    joinPart t cs,
    wherePart t cs,
    groupPart t cs,
    havingPart t cs,
    orderPart t cs].mapM id
  let paging := [(window.bind t.dialect.limit).getD ∅, (window.bind t.dialect.offset).getD ∅]
  let unions ← unionPart t cs
  let lock : Fragment := ((mode.bind t.dialect.lock).getD "" : String)
  return .sentence (parts ++ paging ++ [unions, lock])

def select (isDistinct : Bool) (cs : List (Clause SubSelect)) : Except CompileError Fragment := do
  let cs ← expandPaths t cs
  selectExpanded t isDistinct cs

/-- A nested query: always a select, whatever its method, and without its own WITH list. -/
def subSelect (b : Block SubSelect) : SubSelect :=
  ⟨b.aliasName, select t b.isDistinct b.clauses⟩

end PolySql.Sql
