import PolySql.Options
import PolySql.Query.Basic
import PolySql.Query.Choice
import PolySql.Query.Kind

/-!
Models written as JSON, with all their members; a clause also carries its kind.
-/

namespace PolySql

def Bound.toJson : Bound → Json
  | .value v => v
  | .raw sql => .obj [("$raw", .str sql)]

def Options.toJson (o : Options) : Json :=
  .obj [("aggregate_alias", .str o.aggregateAlias),
    ("deep_join_source_key_suffix", .str o.sourceKeySuffix),
    ("deep_join_target_key", .str o.targetKey)]

namespace Write

abbrev Members := List (String × Json)

def optionalText : Option String → Json := Json.ofOption .str

def bounds (bs : List Bound) : Json := .arr (bs.map Bound.toJson)

def texts (ss : List String) : Json := .arr (ss.map .str)

def verbatim (sql : Verbatim) : Members :=
  [("bindings", bounds sql.bindings), ("expression", .str sql.expression)]

def scope {α : Type} (s : Scoped α) (kind : String) (members : Members) : Json :=
  .obj (("component", .str s.component) :: ("engine", .str s.engine) :: ("kind", .str kind) ::
    members)

def table : Table Json → Members
  | .base => []
  | .named table => [("table", .str table)]
  | .verbatim sql aliasName => ("alias", optionalText aliasName) :: verbatim sql
  | .derived query aliasName => [("alias", optionalText aliasName), ("query", query)]

def flags (f : Flags) : Members := [("is_not", .bool f.isNot), ("is_or", .bool f.isOr)]

def test : Test Json → Members
  | .base => []
  | .verbatim sql => verbatim sql
  | .compare column operator value =>
    [("column", .str column), ("operator", .str operator), ("value", value.toJson)]
  | .pattern column operator value caseSensitive =>
    [("case_sensitive", .bool caseSensitive), ("column", .str column),
      ("operator", .str operator), ("value", .str value)]
  | .datePart column part operator value =>
    [("column", .str column), ("operator", .str operator), ("part", .str part),
      ("value", value.toJson)]
  | .columns first operator second =>
    [("first", .str first), ("operator", .str operator), ("second", .str second)]
  | .subquery column operator query =>
    [("column", .str column), ("operator", .str operator), ("query", query)]
  | .oneOf column values => [("column", .str column), ("values", bounds values)]
  | .oneOfQuery column query => [("column", .str column), ("query", query)]
  | .between column lower higher =>
    [("column", .str column), ("higher", higher.toJson), ("lower", lower.toJson)]
  | .isNull column => [("column", .str column)]
  | .nonempty query => [("query", query)]
  | .isTrue column value => [("column", .str column), ("value", .bool value)]

mutual

def condition : Condition Json → Members
  | .test f t => flags f ++ test t
  | .group f members => ("conditions", .arr (conditions members)) :: flags f

def conditions : List (Scoped (Condition Json)) → List Json
  | [] => []
  | ⟨component, engine, c⟩ :: rest =>
    .obj (("component", .str component) :: ("engine", .str engine) :: ("kind", .str c.kind) ::
      condition c) :: conditions rest

end

def join (j : Join Json) : Json :=
  .obj [("conditions", .arr (conditions j.conditions)),
    ("table", scope j.table j.table.item.kind (table j.table.item)),
    ("type", .str j.type.name)]

def joinClause : JoinClause Json → Members
  | .base => []
  | .explicit j => [("join", join j)]
  | .path j =>
    [("expression", .str j.expression),
      ("source_key_generator", Json.ofOption KeyGenerator.json j.sourceKeyGenerator),
      ("source_key_suffix", optionalText j.sourceKeySuffix),
      ("target_key", optionalText j.targetKey),
      ("target_key_generator", Json.ofOption KeyGenerator.json j.targetKeyGenerator),
      ("type", .str j.type.name)]

def column : Column Json → Members
  | .base => []
  | .named name => [("name", .str name)]
  | .verbatim sql => verbatim sql
  | .subquery query => [("query", query)]

def orderItem : OrderItem → Members
  | .base => []
  | .column column ascending => [("ascending", .bool ascending), ("column", .str column)]
  | .verbatim sql => verbatim sql
  | .random seed => [("seed", .str seed)]

def insert : Insert Json → Members
  | .base => []
  | .row columns values => [("columns", texts columns), ("values", bounds values)]
  | .rows columns query => [("columns", texts columns), ("query", query)]

def union : Union Json → Members
  | .base => []
  | .operand operation all query =>
    [("all", .bool all), ("operation", .str operation.name), ("query", query)]
  | .verbatim sql => verbatim sql

def body : Body Json → Members
  | .base => []
  | .table t => table t
  | .join j => joinClause j
  | .column c => column c
  | .order item => orderItem item
  | .aggregate a =>
    [("alias", optionalText a.aliasName), ("columns", texts a.columns), ("type", .str a.function)]
  | .insert i => insert i
  | .window w =>
    [("limit", Json.ofOption Json.int w.limit), ("offset", Json.ofOption Json.int w.offset)]
  | .union u => union u
  | .lock mode => [("mode", .str mode.name)]
  | .condition c => condition c

def clause (c : Clause Json) : Json := scope c c.item.kind (body c.item)

def blockMembers (b : Block Json) : Members :=
  [("alias", optionalText b.aliasName), ("clauses", .arr (b.clauses.map clause)),
    ("is_distinct", .bool b.isDistinct), ("method", .str b.method.name)]

def block (b : Block Json) : Json := .obj (blockMembers b)

end Write

def Query.toJson : Query → Json := Query.fold Write.block

def Clause.toJson (c : Clause Query) : Json := Write.clause (c.map (Body.map Query.toJson))

end PolySql
