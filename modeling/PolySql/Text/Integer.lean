import PolySql.Text.Blank

/-!
Integers written in decimal: a sign, zeros and underscores before the number, underscores between
its digits, and a fraction of zeros.
-/

namespace PolySql.Text

/-- The digits of a number, single underscores between them left out. -/
def digits? : List Char → Option (List Char)
  | [] => none
  | [c] => if c.isDigit then some [c] else none
  | c :: '_' :: rest => if c.isDigit then (digits? rest).map (c :: ·) else none
  | c :: rest => if c.isDigit then (digits? rest).map (c :: ·) else none

/-- The number that digits write; only the number zero begins with a zero. -/
def natural? (cs : List Char) : Option Nat :=
  match digits? cs with
  | none | some ('0' :: _ :: _) => none
  | some digits => some (digits.foldl (fun n c => 10 * n + (c.toNat - 48)) 0)

def isPadding (c : Char) : Bool := c = '0' || c = '_'

/-- What follows the zeros and underscores at the front. The last of them is kept where no number
follows: at the end and before a fraction. -/
def unpadded (cs : List Char) : List Char :=
  match cs.dropWhile isPadding with
  | [] => (cs.takeWhile isPadding).getLast?.toList
  | '.' :: rest => (cs.takeWhile isPadding).getLast?.toList ++ '.' :: rest
  | rest => rest

/-- A text without its fraction, which may hold nothing but zeros and has at least one. -/
def withoutFraction? (cs : List Char) : Option (List Char) :=
  match cs.dropWhile (· ≠ '.') with
  | [] => some cs
  | _ :: zeros =>
    if !zeros.isEmpty && zeros.all (· = '0') then some (cs.takeWhile (· ≠ '.')) else none

/-- A number after its sign, without padding and fraction. Padding begins with a zero. -/
def bare? (cs : List Char) : Option (List Char) :=
  if cs.head?.any Char.isDigit then withoutFraction? (unpadded cs) else none

def negative? (cs : List Char) : Option Int := (natural? cs).map fun n => -(n : Int)

/-- A number whose padding may end in a minus. -/
def padded? (cs : List Char) : Option Int :=
  match bare? cs with
  | none => none
  | some ('-' :: '_' :: rest) => negative? rest
  | some ('-' :: rest) => negative? rest
  | some digits => (natural? digits).map Int.ofNat

/-- A decimal integer with white space around it; a minus in front allows no other. -/
def integer? (s : String) : Option Int :=
  match trimBoth isWhiteSpace s.toList with
  | '-' :: rest => (bare? rest).bind negative?
  | '+' :: rest => padded? rest
  | cs => padded? cs

end PolySql.Text
