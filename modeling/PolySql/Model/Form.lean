import PolySql.Model.Issue
import PolySql.Query.Basic

/-!
Forms: what members a model has and how its value is made from them. A form reports the issues of
all its members together; members that it does not name are issues too.
-/

namespace PolySql

/-- A member of a model: a model or a bound position already read, or JSON as it stands. -/
inductive Field
  | plain (v : Json)
  | bound (b : Bound)
  | clause (c : Clause Query)
  | query (q : Query)
  | join (j : Join Query)
  | many (items : List Field)

/-- The JSON of a member that is none of the models. -/
def Field.json? : Field → Option Json
  | .plain v | .bound (.value v) => some v
  | _ => none

def Field.items? : Field → Option (List Field)
  | .plain (.arr items) => some (items.map .plain)
  | .many items => some items
  | _ => none

abbrev Checked (α : Type) := Except (List Issue) α

namespace Checked

/-- Both results, or the issues of both. -/
def both {α β γ : Type} (f : α → β → γ) : Checked α → Checked β → Checked γ
  | .ok a, .ok b => .ok (f a b)
  | .ok _, .error issues => .error issues
  | .error issues, .ok _ => .error issues
  | .error issues, .error others => .error (issues ++ others)

def under {α : Type} (step : String) : Checked α → Checked α
  | .ok a => .ok a
  | .error issues => .error (issues.map (Issue.under step))

def fail {α : Type} (kind : IssueKind) : Checked α := .error [⟨[], kind⟩]

end Checked

structure Form (α : Type) where
  names : List String
  read : List (String × Field) → Checked α

namespace Form

variable {α β : Type}

instance : Functor Form where
  map f form := ⟨form.names, fun members => f <$> form.read members⟩

instance : Applicative Form where
  pure a := ⟨[], fun _ => .ok a⟩
  seq f x := ⟨f.names ++ (x ()).names, fun members =>
    .both (fun g a => g a) (f.read members) ((x ()).read members)⟩

/-- A member with a default, or one that must be there. -/
def member (name : String) (read : Field → Checked α) (default : Option α) : Form α :=
  ⟨[name], fun members =>
    match members.lookup name, default with
    | some field, _ => (read field).under name
    | none, some a => .ok a
    | none, none => .error [⟨[name], .missing⟩]⟩

abbrev required (name : String) (read : Field → Checked α) : Form α := member name read none

abbrev defaulted (name : String) (read : Field → Checked α) (default : α) : Form α :=
  member name read (some default)

def unnamed (form : Form α) (members : List (String × Field)) : List Issue :=
  (members.filter fun m => !form.names.contains m.1).map fun m => ⟨[m.1], .extraForbidden⟩

/-- The value, or the issues of all members, named or not. -/
def check (form : Form α) (members : List (String × Field)) : Checked α :=
  match form.read members, form.unnamed members with
  | .ok a, [] => .ok a
  | .ok _, issues => .error issues
  | .error issues, others => .error (issues ++ others)

def run (model : String) (form : Form α) (members : List (String × Field)) :
    Except ModelError α :=
  (form.check members).mapError (.sorted model)

end Form

end PolySql
