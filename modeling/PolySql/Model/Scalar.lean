import PolySql.Model.Form
import PolySql.Text.Case
import PolySql.Text.Integer

/-!
Readers of members: texts, flags, integers, choices, lists, and models read before.
-/

namespace PolySql.Read

variable {α : Type}

def text (f : Field) : Checked String :=
  match f.json? with
  | some (.str s) => .ok s
  | _ => .fail .stringType

def nullable (read : Field → Checked α) (f : Field) : Checked (Option α) :=
  match f.json? with
  | some .null => .ok none
  | _ => some <$> read f

def trueWords : List String := ["1", "true", "t", "yes", "y", "on"]

def falseWords : List String := ["0", "false", "f", "no", "n", "off"]

/-- The truth value that a word spells, in any case. -/
def flagOfWord? (word : String) : Option Bool :=
  let word := String.ofList (word.toList.map Char.toLower)
  if trueWords.contains word then some true
  else if falseWords.contains word then some false
  else none

/-- Whether an integer fits in a signed word of 64 bits. -/
def fitsWord (n : Int) : Bool := Int64.minValue.toInt ≤ n && n ≤ Int64.maxValue.toInt

/-- A truth value, a number that stands for one, or a word. Other words, and other integers that
fit in a machine word, are values that cannot be parsed; all else has the wrong type. -/
def flag (f : Field) : Checked Bool :=
  match f.json? with
  | some (.bool b) => .ok b
  | some (.num mantissa places) =>
    match Json.whole? mantissa places with
    | some 0 => .ok false
    | some 1 => .ok true
    | some n => .fail (if fitsWord n then .boolParsing else .boolType)
    | none => .fail .boolType
  | some (.str s) =>
    match flagOfWord? s with
    | some b => .ok b
    | none => .fail .boolParsing
  | _ => .fail .boolType

def integer (f : Field) : Checked Int :=
  match f.json? with
  | some (.bool b) => .ok (if b then 1 else 0)
  | some (.num mantissa places) =>
    match Json.whole? mantissa places with
    | some n => .ok n
    | none => .fail .intFromFloat
  | some (.str s) =>
    match Text.integer? s with
    | some n => .ok n
    | none => .fail .intParsing
  | _ => .fail .intType

/-- One of the members of an enumeration, by its name. -/
def choice (all : List α) (name : α → String) (f : Field) : Checked α :=
  match f.json? with
  | some (.str s) =>
    match all.find? (name · = s) with
    | some a => .ok a
    | none => .fail .literalError
  | _ => .fail .literalError

def itemsFrom (read : Field → Checked α) (start : Nat) : List Field → Checked (List α)
  | [] => .ok []
  | f :: rest =>
    .both List.cons ((read f).under (toString start)) (itemsFrom read (start + 1) rest)

def list (read : Field → Checked α) (f : Field) : Checked (List α) :=
  match f.items? with
  | some items => itemsFrom read 0 items
  | none => .fail .listType

/-- Any value, or SQL text. -/
def bound : Field → Checked Bound
  | .bound b => .ok b
  | .plain v => .ok (.value v)
  | _ => .fail .modelType

/-- The text of a member of a key generator, empty where there is none. -/
def generatorText (members : List (String × Json)) (name : String) : String :=
  match members.lookup name with
  | some (.str s) => s
  | _ => ""

def affixGenerator (before after : String) : KeyGenerator :=
  ⟨fun table => before ++ table ++ after,
    .obj [("$fn", .str "affix"), ("prefix", .str before), ("suffix", .str after)]⟩

def upperGenerator : KeyGenerator := ⟨Text.upper, .obj [("$fn", .str "upper")]⟩

def constGenerator (key : String) : KeyGenerator :=
  ⟨fun _ => key, .obj [("$fn", .str "const"), ("value", .str key)]⟩

def generator (f : Field) : Checked KeyGenerator :=
  match f.json? with
  | some (.obj members) =>
    match members.lookup "$fn" with
    | some (.str "affix") =>
      .ok (affixGenerator (generatorText members "prefix") (generatorText members "suffix"))
    | some (.str "upper") => .ok upperGenerator
    | some (.str "const") => .ok (constGenerator (generatorText members "value"))
    | _ => .fail .callableType
  | _ => .fail .callableType

def query : Field → Checked Query
  | .query q => .ok q
  | _ => .fail .modelType

def join : Field → Checked (Join Query)
  | .join j => .ok j
  | _ => .fail .modelType

/-- A clause of a family: one read before, or an object with the members of the family's base. -/
def family (base : Form α) (ofClause? : Clause Query → Option α) : Field → Checked α
  | .clause c =>
    match ofClause? c with
    | some a => .ok a
    | none => .fail .modelType
  | .plain (.obj members) => base.check (members.map fun m => (m.1, .plain m.2))
  | _ => .fail .modelType

end PolySql.Read
