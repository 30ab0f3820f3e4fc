import PolySql.Model.Write

/-!
Drafts: queries that are edited. Assigned values are not checked, so a draft keeps them as they were
given beside the query that they amount to.
-/

namespace PolySql

/-- The members of a query that hold a single value. -/
inductive Member
  | method
  | isDistinct
  | aliasName
  deriving DecidableEq

def Member.all : List Member := [.method, .isDistinct, .aliasName]

def Member.name : Member → String
  | .method => "method"
  | .isDistinct => "is_distinct"
  | .aliasName => "alias"

/-- A query, and the values assigned to its members, the latest first. -/
structure Draft where
  block : Block Query
  assigned : List (Member × Json)

inductive Edit
  | add (clause : Clause Query)
  | insert (index : Int) (clause : Clause Query)
  | remove (index : Int)
  | replace (clauses : List (Clause Query))
  | assign (member : Member) (value : Json)

/-- A query whose member is assigned any value. What is no method is a select, and what is no text
is no alias. -/
def Block.assign (b : Block Query) (member : Member) (value : Json) : Block Query :=
  match member, value with
  | .method, .str name => { b with method := .ofName name }
  | .method, _ => { b with method := .select }
  | .isDistinct, value => { b with isDistinct := value.truthy }
  | .aliasName, .str name => { b with aliasName := some name }
  | .aliasName, _ => { b with aliasName := none }

namespace Draft

def ofQuery (q : Query) : Draft := ⟨q.block, []⟩

def query (d : Draft) : Query := .ofBlock d.block

/-- The place of an index in a list of length `n`; a negative one counts from the end. -/
def place (n : Nat) (index : Int) : Nat :=
  if index < 0 then (index + n).toNat else min index.toNat n

def withClauses (d : Draft) (clauses : List (Clause Query)) : Draft :=
  { d with block := { d.block with clauses := clauses } }

def apply (d : Draft) : Edit → Draft
  | .add c => d.withClauses (d.block.clauses ++ [c])
  | .insert index c =>
    d.withClauses (d.block.clauses.insertIdx (place d.block.clauses.length index) c)
  | .remove index => d.withClauses (d.block.clauses.eraseIdx (place d.block.clauses.length index))
  | .replace clauses => d.withClauses clauses
  | .assign member value => ⟨d.block.assign member value, (member, value) :: d.assigned⟩

/-- The value assigned to a member of this name, if any. -/
def assigned? (d : Draft) (name : String) : Option Json :=
  (d.assigned.find? (·.1.name = name)).map (·.2)

/-- The draft with all members of its query; assigned ones are written as they were given. -/
def toJson (d : Draft) : Json :=
  .obj ((Write.blockMembers (d.block.map Query.toJson)).map fun m =>
    (m.1, (d.assigned? m.1).getD m.2))

end Draft

end PolySql
