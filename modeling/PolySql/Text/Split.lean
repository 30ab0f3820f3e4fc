import PolySql.Text.Blank

/-!
Texts cut at separators. A separator is given by its width at the front of a text, zero where none
starts. Main statement: at dots a text is cut as a list is (`splitDots_eq`).
-/

namespace PolySql.Text

/-- Adds a character to the first piece. -/
def consFirst (c : Char) : List (List Char) → List (List Char)
  | [] => [[c]]
  | w :: ws => (c :: w) :: ws

/-- The pieces between separators, leftmost first, once `skip` more characters are passed over. -/
def pieces (width : List Char → Nat) (skip : Nat) : List Char → List (List Char)
  | [] => [[]]
  | c :: cs =>
    match skip, width (c :: cs) with
    | k + 1, _ => pieces width k cs
    | 0, 0 => consFirst c (pieces width 0 cs)
    | 0, w + 1 => [] :: pieces width w cs

theorem consFirst_ne_nil (c : Char) (ws : List (List Char)) : consFirst c ws ≠ [] := by
  cases ws <;> simp [consFirst]

theorem pieces_ne_nil (width : List Char → Nat) (skip : Nat) (cs : List Char) :
    pieces width skip cs ≠ [] := by
  induction cs generalizing skip with
  | nil => simp [pieces]
  | cons c cs ih =>
    unfold pieces
    split
    · exact ih _
    · exact consFirst_ne_nil _ _
    · simp

/-- The width of a dot. -/
def dotWidth : List Char → Nat
  | '.' :: _ => 1
  | _ => 0

/-- The width of an alias separator: the word `as`, in any case, between blanks. -/
def aliasWidth (cs : List Char) : Nat :=
  let blanks := cs.takeWhile isBlank
  match cs.drop blanks.length with
  | a :: s :: rest =>
    let after := rest.takeWhile isBlank
    if 0 < blanks.length ∧ 0 < after.length ∧ (a = 'a' ∨ a = 'A') ∧
        (s = 's' ∨ s = 'S' ∨ s = 'ſ') then
      blanks.length + 2 + after.length
    else 0
  | _ => 0

def splitDots (s : String) : List String := (pieces dotWidth 0 s.toList).map String.ofList

/-- A text with an alias has more than one piece, the alias last. -/
def splitAlias (s : String) : List String := (pieces aliasWidth 0 s.toList).map String.ofList

theorem pieces_dotWidth (cs : List Char) : pieces dotWidth 0 cs = cs.splitOn '.' := by
  induction cs with
  | nil => rfl
  | cons c cs ih =>
    have hcons : consFirst c (pieces dotWidth 0 cs) =
        (pieces dotWidth 0 cs).modifyHead (List.cons c) := by
      cases hpieces : pieces dotWidth 0 cs with
      | nil => exact absurd hpieces (pieces_ne_nil _ _ _)
      | cons => rfl
    rw [List.splitOn, List.splitOnP_cons_eq_if_modifyHead, ← List.splitOn, ← ih, ← hcons]
    by_cases hdot : c = '.'
    · subst hdot
      rfl
    · have hwidth : dotWidth (c :: cs) = 0 := by
        unfold dotWidth
        split
        · next heq => exact absurd (List.cons.inj heq).1 hdot
        · rfl
      rw [if_neg (by simpa using hdot), pieces]
      exact hwidth

theorem splitDots_eq (s : String) :
    splitDots s = (s.toList.splitOn '.').map String.ofList := by
  rw [splitDots, pieces_dotWidth]

/-- Nothing is left out, not even where dots stand next to each other. -/
example : splitDots ".a..b" = ["", "a", "", "b"] := by decide +kernel

end PolySql.Text
