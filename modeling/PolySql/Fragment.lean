import PolySql.Error
import PolySql.Text.Blank

/-!
Fragments of a statement: SQL text together with the values of its placeholders, in text order.
Main statement: every operation that puts fragments together appends their bindings.
-/

namespace PolySql

@[ext]
structure Fragment where
  text : String
  bindings : List Json

namespace Fragment

def append (f g : Fragment) : Fragment := ⟨f.text ++ g.text, f.bindings ++ g.bindings⟩

instance : Append Fragment := ⟨append⟩

instance : Coe String Fragment := ⟨fun text => ⟨text, []⟩⟩

instance : EmptyCollection Fragment := ⟨⟨"", []⟩⟩

@[simp] theorem text_append (f g : Fragment) : (f ++ g).text = f.text ++ g.text := rfl

@[simp] theorem bindings_append (f g : Fragment) :
    (f ++ g).bindings = f.bindings ++ g.bindings := rfl

@[simp] theorem text_empty : (∅ : Fragment).text = "" := rfl

@[simp] theorem bindings_empty : (∅ : Fragment).bindings = [] := rfl

theorem coe_append (s t : String) : (s ++ t : Fragment) = (s ++ t : String) := rfl

theorem append_assoc (f g h : Fragment) : f ++ g ++ h = f ++ (g ++ h) := by
  ext1 <;> simp [String.append_assoc]

@[simp] theorem empty_append (f : Fragment) : ∅ ++ f = f := by ext1 <;> simp

@[simp] theorem append_empty (f : Fragment) : f ++ ∅ = f := by ext1 <;> simp

/-- The fragment without blanks at its ends. -/
def strip (f : Fragment) : Fragment := ⟨Text.strip f.text, f.bindings⟩

@[simp] theorem bindings_strip (f : Fragment) : f.strip.bindings = f.bindings := rfl

def separated (separator : String) : List Fragment → Fragment
  | [] => ∅
  | [f] => f
  | f :: g :: rest => f ++ separator ++ separated separator (g :: rest)

theorem bindings_separated (separator : String) (fs : List Fragment) :
    (separated separator fs).bindings = fs.flatMap (·.bindings) := by
  fun_induction separated separator fs with
  | case1 => rfl
  | case2 f => simp
  | case3 f g rest ih => simp [ih]

/-- The stripped fragments with one space between them; a blank one leaves only its bindings. -/
def sentence (fs : List Fragment) : Fragment :=
  ⟨(separated " " ((fs.map strip).filter (·.text ≠ ""))).text, fs.flatMap (·.bindings)⟩

end Fragment

/-- The text for a bound position, and the value that it binds, if any. -/
def Bound.fragment (placeholder : String) : Bound → Fragment
  | .value v => ⟨placeholder, [v]⟩
  | .raw sql => sql

def bindAll (placeholder : String) (bs : List Bound) : Fragment :=
  .separated ", " (bs.map (·.fragment placeholder))

/-- Puts bound positions in place of the marks `?`; what is put in is not searched for marks. -/
def fillMarks (placeholder : String) : List Char → List Bound → Fragment
  | [], _ => ∅
  | c :: cs, bs =>
    match c, bs with
    | '?', b :: rest => b.fragment placeholder ++ fillMarks placeholder cs rest
    | _, _ => String.singleton c ++ fillMarks placeholder cs bs

/-- SQL text with as many marks `?` as bindings. -/
def fill (placeholder expression : String) (bs : List Bound) : Except CompileError Fragment :=
  if expression.toList.count '?' = bs.length then
    .ok (fillMarks placeholder expression.toList bs)
  else .error (.bindingCount expression bs.length)

end PolySql
