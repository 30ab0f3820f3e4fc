import PolySql.Text.Ranges

/-!
Blank characters, and texts without blanks at their ends.
-/

namespace PolySql.Text

/-- The white space of the Unicode standard. -/
def whiteSpace : Ranges :=
  [(0x09, 0x0D), (0x20, 0x20), (0x85, 0x85), (0xA0, 0xA0), (0x1680, 0x1680), (0x2000, 0x200A),
   (0x2028, 0x2029), (0x202F, 0x202F), (0x205F, 0x205F), (0x3000, 0x3000)]

def isWhiteSpace (c : Char) : Bool := whiteSpace.contains c

/-- White space, and the four information separators. -/
def isBlank (c : Char) : Bool := isWhiteSpace c || (0x1C ≤ c.toNat && c.toNat ≤ 0x1F)

theorem isBlank_iff {c : Char} :
    isBlank c ↔ ∃ r ∈ (0x1C, 0x1F) :: whiteSpace, r.1 ≤ c.toNat ∧ c.toNat ≤ r.2 := by
  simp [isBlank, isWhiteSpace, Ranges.contains_iff, or_comm]

/-- The characters left when those with property `p` are taken off both ends. -/
def trimBoth (p : Char → Bool) (cs : List Char) : List Char :=
  ((cs.dropWhile p).reverse.dropWhile p).reverse

def strip (s : String) : String := String.ofList (trimBoth isBlank s.toList)

end PolySql.Text
