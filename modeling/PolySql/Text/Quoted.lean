import PolySql.Text.Printable

/-!
Texts quoted for display in messages: single quotes, unless the text holds single quotes only.
Characters that do not print are written by their code points.
-/

namespace PolySql.Text

/-- The hexadecimal digits of `n`, with zeros in front up to `k` digits. -/
def paddedHex (k n : Nat) : List Char :=
  let digits := Nat.toDigits 16 n
  List.replicate (k - digits.length) '0' ++ digits

/-- Two, four or eight digits, the fewest that hold the code point. -/
def escapedCode (n : Nat) : List Char :=
  if n < 0x100 then '\\' :: 'x' :: paddedHex 2 n
  else if n < 0x10000 then '\\' :: 'u' :: paddedHex 4 n
  else '\\' :: 'U' :: paddedHex 8 n

def quotedChar (quote c : Char) : List Char :=
  if c = '\\' ∨ c = quote then ['\\', c]
  else if c = '\n' then ['\\', 'n']
  else if c = '\r' then ['\\', 'r']
  else if c = '\t' then ['\\', 't']
  else if isPrintable c then [c]
  else escapedCode c.toNat

def displayQuote (cs : List Char) : Char :=
  if cs.contains '\'' && !cs.contains '"' then '"' else '\''

def quoted (s : String) : String :=
  let quote := displayQuote s.toList
  String.ofList (quote :: s.toList.flatMap (quotedChar quote) ++ [quote])

/-- A bracketed list of quoted texts. -/
def quotedList (xs : List String) : String := "[" ++ String.intercalate ", " (xs.map quoted) ++ "]"

end PolySql.Text
