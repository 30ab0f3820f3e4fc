import PolySql.Text.CaseTable

/-!
Upper and lower case of texts. A capital sigma that ends a word becomes the final form.
-/

namespace PolySql.Text

def isCaseIgnorable (c : Char) : Bool := caseIgnorable.contains c

def isCased (c : Char) : Bool := cased.contains c

def upperChar (c : Char) : List Char :=
  match upperExpansions.lookup c.toNat with
  | some codes => codes.map Char.ofNat
  | none => [(upperRuns.findSome? (·.image? c)).getD c]

/-- Only the dotted capital I has a lowercase of two characters. -/
def lowerChar (c : Char) : List Char :=
  if c = 'İ' then ['i', '\u0307'] else [(lowerRuns.findSome? (·.image? c)).getD c]

/-- Whether the first character that cannot be ignored has a case. -/
def startsCased (cs : List Char) : Bool :=
  (cs.dropWhile isCaseIgnorable).head?.any isCased

/-- The lowercase of characters that follow a cased letter, or do not. -/
def lowerFrom (afterCased : Bool) : List Char → List Char
  | [] => []
  | c :: cs =>
    (if c = 'Σ' then [if afterCased && !startsCased cs then 'ς' else 'σ'] else lowerChar c) ++
      lowerFrom (if isCaseIgnorable c then afterCased else isCased c) cs

def lower (s : String) : String := String.ofList (lowerFrom false s.toList)

def upper (s : String) : String := String.ofList (s.toList.flatMap upperChar)

end PolySql.Text
