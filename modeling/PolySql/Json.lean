/-!
JSON values: what queries bind, and what models are read from and written to.
-/

namespace PolySql

/-- A number is `mantissa / 10 ^ places`, exactly; an integer is written with no places. Rounding
is up to whoever reads a text: a number that is kept in 53 binary digits is given by its own
decimal, which for the text `1e23` is 99999999999999991611392, and `1e400` is none at all. -/
inductive Json
  | null
  | bool (b : Bool)
  | num (mantissa : Int) (places : Nat)
  | str (s : String)
  | arr (items : List Json)
  | obj (members : List (String × Json))
  deriving Inhabited

namespace Json

abbrev int (n : Int) : Json := num n 0

def ofOption {α : Type} (f : α → Json) : Option α → Json
  | none => null
  | some a => f a

/-- Null, false, zero and what is empty count as false, all else as true. -/
def truthy : Json → Bool
  | null => false
  | bool b => b
  | num mantissa _ => mantissa ≠ 0
  | str s => s ≠ ""
  | arr items => !items.isEmpty
  | obj members => !members.isEmpty

/-- The integer that a number equals, if any; none is rounded to one. -/
def whole? (mantissa : Int) (places : Nat) : Option Int :=
  let unit : Int := Nat.pow 10 places
  if mantissa % unit = 0 then some (mantissa / unit) else none

theorem whole?_zero (n : Int) : whole? n 0 = some n := by
  have h : n % ((Nat.pow 10 0 : Nat) : Int) = 0 := Int.emod_one n
  simp only [whole?, if_pos h]
  exact congrArg some (Int.ediv_one n)

end Json

end PolySql
