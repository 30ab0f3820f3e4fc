import PolySql.Dialect.Basic
import PolySql.Text.Blank
import PolySql.Text.Case
import PolySql.Text.Quoted

/-!
A registry of dialects: canonical names, and aliases of them. Names are looked up without regard
to case and to blanks around them.
-/

namespace PolySql

/-- Values by name; a later value replaces an earlier one. -/
abbrev Names (α : Type) := List (String × α)

namespace Names

variable {α : Type}

def erase (ns : Names α) (name : String) : Names α := ns.filter (·.1 ≠ name)

def put (ns : Names α) (name : String) (a : α) : Names α := (name, a) :: ns.erase name

theorem lookup_put_self (ns : Names α) (name : String) (a : α) :
    (ns.put name a).lookup name = some a := by
  simp [put]

theorem lookup_erase_of_ne (ns : Names α) {name other : String} (h : other ≠ name) :
    (ns.erase name).lookup other = ns.lookup other := by
  induction ns with
  | nil => rfl
  | cons p rest ih =>
    obtain ⟨key, a⟩ := p
    have ih : (rest.filter (·.1 ≠ name)).lookup other = rest.lookup other := ih
    by_cases hk : key = name
    · subst hk
      have hne : (other == key) = false := by simpa using h
      simp [erase, List.lookup_cons, hne, ← ih]
    · simp [erase, hk, List.lookup_cons, ← ih]

theorem lookup_put_of_ne (ns : Names α) {name other : String} (a : α) (h : other ≠ name) :
    (ns.put name a).lookup other = ns.lookup other := by
  have : (other == name) = false := by simpa using h
  simp [put, List.lookup_cons, this, lookup_erase_of_ne ns h]

end Names

inductive RegistryError
  | aliasTaken (aliasName : String)
  | unsupported (name : String) (registered : List String)
  deriving DecidableEq

def RegistryError.message : RegistryError → String
  | .aliasTaken aliasName => s!"Alias '{aliasName}' is already a registered dialect name."
  | .unsupported name registered =>
    s!"Unsupported dialect: '{name}'. Registered dialects: {Text.quotedList registered}."

structure Registry where
  dialects : Names Dialect
  aliases : Names String

namespace Registry

/-- The form in which names are kept and compared. -/
def normalize (name : String) : String := Text.lower (Text.strip name)

/-- The canonical names in the order of their code points. -/
def registered (r : Registry) : List String := (r.dialects.map (·.1)).mergeSort (· ≤ ·)

/-- The canonical name that a normalized name stands for. -/
def canonical (r : Registry) (key : String) : String := (r.aliases.lookup key).getD key

def find? (r : Registry) (name : String) : Option Dialect :=
  r.dialects.lookup (r.canonical (normalize name))

def resolve (r : Registry) (name : String) : Except RegistryError Dialect :=
  match r.find? name with
  | some d => .ok d
  | none => .error (.unsupported name r.registered)

/-- Points aliases to a name one by one, up to one that is the name of another dialect. -/
def addAliases (r : Registry) (name : String) : List String → Registry × Option RegistryError
  | [] => (r, none)
  | key :: rest =>
    if (r.dialects.lookup key).isSome && key ≠ name then (r, some (.aliasTaken key))
    else addAliases { r with aliases := r.aliases.put key name } name rest

/-- Registers a dialect under a name and aliases. Aliases set before a refused one stay. -/
def register (r : Registry) (name : String) (d : Dialect) (aliases : List String) :
    Registry × Option RegistryError :=
  let name := normalize name
  match r.addAliases name (aliases.map normalize) with
  | (r, some e) => (r, some e)
  | (r, none) => (⟨r.dialects.put name d, r.aliases.erase name⟩, none)

def builtin : Registry :=
  ⟨Dialect.builtin.map fun d => (d.name, d),
    [("sqlite3", "sqlite"), ("postgresql", "postgres"), ("pg", "postgres"),
      ("mariadb", "mysql"), ("mssql", "sqlserver")]⟩

end Registry

end PolySql
