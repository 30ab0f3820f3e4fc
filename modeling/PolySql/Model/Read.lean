import PolySql.Model.Scalar
import PolySql.Options
import PolySql.Query.Choice
import PolySql.Query.Lookup

/-!
Models read from JSON. The models nested in one are read before it, members in their order and
arrays from left to right; the first model with issues ends the reading. A clause that states no
kind is not read before: the model around it checks its members.
-/

namespace PolySql

namespace Read

open Form (required defaulted member)

def methods : List Method := [.select, .change .insert, .change .update, .change .delete]

/-- The members of every clause; only the base of all clauses has no component of its own. -/
def inScope {α : Type} (component : Option String) (form : Form α) : Form (Scoped α) :=
  Scoped.mk <$> member "component" text component <*> defaulted "engine" text wildcard <*> form

def bindings : Form (List Bound) := defaulted "bindings" (list bound) []

def verbatim : Form Verbatim := Verbatim.mk <$> required "expression" text <*> bindings

def operator : Form String := defaulted "operator" text "="

def flags : Form Flags :=
  Flags.mk <$> defaulted "is_or" flag false <*> defaulted "is_not" flag false

def optionalText (name : String) : Form (Option String) := defaulted name (nullable text) none

def joinType : Form JoinType := defaulted "type" (choice JoinType.all JoinType.name) .inner

def pathJoin : Form PathJoin :=
  PathJoin.mk <$> required "expression" text <*> joinType <*> optionalText "source_key_suffix" <*>
    optionalText "target_key" <*> defaulted "source_key_generator" (nullable generator) none <*>
    defaulted "target_key_generator" (nullable generator) none

def aggregate : Form Aggregate :=
  Aggregate.mk <$> required "type" text <*> defaulted "columns" (list text) ["*"] <*>
    optionalText "alias"

def window : Form Window :=
  Window.mk <$> defaulted "limit" (nullable integer) none <*>
    defaulted "offset" (nullable integer) none

abbrev ClauseForm := Form (Clause Query)

def baseClause : ClauseForm := inScope none (pure .base)

def baseTable : Form (Scoped (Table Query)) := inScope (some "from") (pure .base)

def baseCondition : Form (Scoped (Condition Query)) :=
  inScope (some "where") ((fun flags => .test flags .base) <$> flags)

def clause : Field → Checked (Clause Query) := family baseClause some

def table : Field → Checked (Scoped (Table Query)) :=
  family baseTable fun c =>
    match c with
    | ⟨component, engine, .table t⟩ => some ⟨component, engine, t⟩
    | _ => none

def condition : Field → Checked (Scoped (Condition Query)) :=
  family baseCondition fun c =>
    match c with
    | ⟨component, engine, .condition c⟩ => some ⟨component, engine, c⟩
    | _ => none

def tableForm (form : Form (Table Query)) : ClauseForm := inScope (some "from") (.table <$> form)

def joinForm (form : Form (JoinClause Query)) : ClauseForm :=
  inScope (some "join") (.join <$> form)

def columnForm (form : Form (Column Query)) : ClauseForm :=
  inScope (some "select") (.column <$> form)

def orderForm (form : Form OrderItem) : ClauseForm := inScope (some "order") (.order <$> form)

def insertForm (form : Form (Insert Query)) : ClauseForm :=
  inScope (some "insert") (.insert <$> form)

def unionForm (form : Form (Union Query)) : ClauseForm :=
  inScope (some "union") (.union <$> form)

def testForm (form : Form (Test Query)) : ClauseForm :=
  inScope (some "where") ((fun flags test => .condition (.test flags test)) <$> flags <*> form)

def groupForm : ClauseForm :=
  inScope (some "where") ((fun flags members => .condition (.group flags members)) <$> flags <*>
    defaulted "conditions" (list condition) [])

/-- The form of a clause, by its kind. -/
def clauseForms : List (String × ClauseForm) :=
  [("AbstractClause", baseClause),
   ("AbstractFrom", tableForm (pure .base)),
   ("FromClause", tableForm (.named <$> required "table" text)),
   ("RawFromClause", tableForm (.verbatim <$> verbatim <*> optionalText "alias")),
   ("QueryFromClause", tableForm (.derived <$> required "query" query <*> optionalText "alias")),
   ("AbstractJoin", joinForm (pure .base)),
   ("JoinClause", joinForm (.explicit <$> required "join" join)),
   ("DeepJoinClause", joinForm (.path <$> pathJoin)),
   ("AbstractColumn", columnForm (pure .base)),
   ("Column", columnForm (.named <$> required "name" text)),
   ("RawColumn", columnForm (.verbatim <$> verbatim)),
   ("QueryColumn", columnForm (.subquery <$> required "query" query)),
   ("AbstractOrderBy", orderForm (pure .base)),
   ("OrderBy",
    orderForm (.column <$> required "column" text <*> defaulted "ascending" flag true)),
   ("RawOrderBy", orderForm (.verbatim <$> verbatim)),
   ("RandomOrderBy", orderForm (.random <$> defaulted "seed" text "")),
   ("AggregateClause", inScope (some "aggregate") (.aggregate <$> aggregate)),
   ("AbstractInsertClause", insertForm (pure .base)),
   ("InsertClause",
    insertForm (.row <$> required "columns" (list text) <*> required "values" (list bound))),
   ("InsertQueryClause",
    insertForm (.rows <$> defaulted "columns" (list text) [] <*> required "query" query)),
   ("LimitOffset", inScope (some "limit") (.window <$> window)),
   ("AbstractUnion", unionForm (pure .base)),
   ("UnionClause",
    unionForm (.operand <$>
      defaulted "operation" (choice SetOperation.all SetOperation.name) .union <*>
      defaulted "all" flag false <*> required "query" query)),
   ("RawUnionClause", unionForm (.verbatim <$> verbatim)),
   ("LockClause",
    inScope (some "lock")
      (.lock <$> defaulted "mode" (choice LockMode.all LockMode.name) .update)),
   ("AbstractCondition", testForm (pure .base)),
   ("RawCondition", testForm (.verbatim <$> verbatim)),
   ("BasicCondition",
    testForm (.compare <$> required "column" text <*> operator <*>
      defaulted "value" bound (.value .null))),
   ("BasicStringCondition",
    testForm (.pattern <$> required "column" text <*> defaulted "operator" text "like" <*>
      required "value" text <*> defaulted "case_sensitive" flag false)),
   ("BasicDateCondition",
    testForm (.datePart <$> required "column" text <*> required "part" text <*> operator <*>
      defaulted "value" bound (.value .null))),
   ("TwoColumnsCondition",
    testForm (.columns <$> required "first" text <*> operator <*> required "second" text)),
   ("NestedCondition", groupForm),
   ("SubQueryCondition",
    testForm (.subquery <$> required "column" text <*> operator <*> required "query" query)),
   ("InCondition",
    testForm (.oneOf <$> required "column" text <*> defaulted "values" (list bound) [])),
   ("InQueryCondition",
    testForm (.oneOfQuery <$> required "column" text <*> required "query" query)),
   ("BetweenCondition",
    testForm (.between <$> required "column" text <*> required "lower" bound <*>
      required "higher" bound)),
   ("NullCondition", testForm (.isNull <$> required "column" text)),
   ("ExistsCondition", testForm (.nonempty <$> required "query" query)),
   ("BooleanCondition",
    testForm (.isTrue <$> required "column" text <*> defaulted "value" flag true))]

def joinModel : Form (Join Query) :=
  Join.mk <$> joinType <*> required "table" table <*> defaulted "conditions" (list condition) []

def queryModel : Form Query :=
  (fun clauses method isDistinct aliasName =>
      .ofBlock ⟨clauses, method, isDistinct, aliasName⟩) <$>
    defaulted "clauses" (list clause) [] <*>
    defaulted "method" (choice methods Method.name) .select <*>
    defaulted "is_distinct" flag false <*> optionalText "alias"

def optionsModel : Form Options :=
  Options.mk <$> defaulted "deep_join_source_key_suffix" text "Id" <*>
    defaulted "deep_join_target_key" text "Id" <*> defaulted "aggregate_alias" text "count"

/-- What is expected in a place. -/
inductive Shape
  | plain
  | bound
  | bounds
  | clause
  | clauses
  | query
  | join

/-- What a member holds, by its name. Only in a join is a table more than a name. -/
def shapeOf (owner : Shape) (name : String) : Shape :=
  match name with
  | "value" | "lower" | "higher" => .bound
  | "bindings" | "values" => .bounds
  | "clauses" | "conditions" => .clauses
  | "query" => .query
  | "join" => .join
  | "table" =>
    match owner with
    | .join => .clause
    | _ => .plain
  | _ => .plain

/-- SQL text in a bound position has to be a text. -/
def rawError : ModelError := ⟨"Raw", [⟨["value"], .stringType⟩]⟩

mutual

/-- Whether every mark of SQL text inside a value holds a text. -/
def rawsAreTexts : Json → Bool
  | .arr items => itemsAreTexts items
  | .obj members =>
    match members with
    | [("$raw", .str _)] => true
    | [("$raw", _)] => false
    | members => membersAreTexts members
  | _ => true

def itemsAreTexts : List Json → Bool
  | [] => true
  | v :: rest => rawsAreTexts v && itemsAreTexts rest

def membersAreTexts : List (String × Json) → Bool
  | [] => true
  | (_, v) :: rest => rawsAreTexts v && membersAreTexts rest

end

def boundOf (v : Json) : Except ModelError Field :=
  if rawsAreTexts v then
    match v with
    | .obj [("$raw", .str sql)] => .ok (.bound (.raw sql))
    | v => .ok (.bound (.value v))
  else .error rawError

/-- The kind that an object states, with its form. -/
def statedForm? (members : List (String × Json)) : Option (String × ClauseForm) :=
  match members.lookup "kind" with
  | some (.str kind) => (clauseForms.lookup kind).map fun form => (kind, form)
  | _ => none

mutual

/-- A clause states its kind; queries and joins are known by their place. An object that is none of
these is left as it stands, with all inside it. -/
def fieldOf (shape : Shape) : Json → Except ModelError Field
  | .obj members =>
    match shape with
    | .plain | .clauses => .ok (.plain (.obj members))
    | .bound | .bounds => boundOf (.obj members)
    | .clause =>
      match statedForm? members with
      | some (kind, form) => do
        let fields ← fieldsOf shape members
        .clause <$> form.run kind (fields.filter (·.1 ≠ "kind"))
      | none => .ok (.plain (.obj members))
    | .query => do
      let fields ← fieldsOf shape members
      .query <$> queryModel.run "Query" fields
    | .join => do
      let fields ← fieldsOf shape members
      .join <$> joinModel.run "Join" fields
  | .arr items =>
    match shape with
    | .clauses => .many <$> modelsOf items
    | .bounds => .many <$> items.mapM boundOf
    | .bound => boundOf (.arr items)
    | _ => .ok (.plain (.arr items))
  | v => .ok (.plain v)

def modelsOf : List Json → Except ModelError (List Field)
  | [] => .ok []
  | v :: rest => do
    let field ← fieldOf .clause v
    let fields ← modelsOf rest
    return field :: fields

def fieldsOf (owner : Shape) : List (String × Json) → Except ModelError (List (String × Field))
  | [] => .ok []
  | (name, v) :: rest => do
    let field ← fieldOf (shapeOf owner name) v
    let fields ← fieldsOf owner rest
    return (name, field) :: fields

end

end Read

/-- A value that is no model where a model of this name is expected. -/
def ModelError.notModel (model : String) : ModelError := ⟨model, [⟨[], .modelType⟩]⟩

def Query.ofJson (v : Json) : Except ModelError Query := do
  match ← Read.fieldOf .query v with
  | .query q => return q
  | _ => .error (.notModel "Query")

def Clause.ofJson (v : Json) : Except ModelError (Clause Query) := do
  match ← Read.fieldOf .clause v with
  | .clause c => return c
  | _ => .error (.notModel "AbstractClause")

/-- Options given as null are the defaults. -/
def Options.ofJson (v : Json) : Except ModelError Options :=
  match v with
  | .null => .ok {}
  | .obj members => Read.optionsModel.run "CompilerOptions" (members.map fun m => (m.1, .plain m.2))
  | _ => .error (.notModel "CompilerOptions")

end PolySql
