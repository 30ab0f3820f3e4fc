import PolySql.Dialect.Basic
import PolySql.Text.Split
import PolySql.Text.Marker

/-!
Identifiers in a dialect's quotes: single names, dotted and aliased ones, and names marked in
verbatim SQL. A closing quote inside a name is written twice.
-/

namespace PolySql

namespace Text

/-- Writes every occurrence of `quote` twice, once `skip` more characters are copied. -/
def doubleQuotes (quote : List Char) (skip : Nat) : List Char → List Char
  | [] => []
  | c :: cs =>
    match skip with
    | k + 1 => c :: doubleQuotes quote k cs
    | 0 =>
      if quote ≠ [] ∧ quote.isPrefixOf (c :: cs) then
        quote ++ c :: doubleQuotes quote (quote.length - 1) cs
      else c :: doubleQuotes quote 0 cs

/-- A quote of one character. -/
theorem doubleQuotes_cons (quote c : Char) (cs : List Char) :
    doubleQuotes [quote] 0 (c :: cs) =
      if c = quote then quote :: quote :: doubleQuotes [quote] 0 cs
      else c :: doubleQuotes [quote] 0 cs := by
  by_cases hc : c = quote
  · simp [doubleQuotes, hc]
  · simp [doubleQuotes, hc, Ne.symm hc]

end Text

namespace Dialect

variable (d : Dialect)

/-- One name in quotes; the star is never quoted. -/
def quote (name : String) : String :=
  if name = "*" then name
  else
    d.openQuote ++ String.ofList (Text.doubleQuotes d.closeQuote.toList 0 name.toList) ++
      d.closeQuote

def isParenthesized (s : String) : Bool :=
  s.toList.head? == some '(' && s.toList.getLast? == some ')'

/-- A dotted name without an alias; an expression in parentheses stays as it is. -/
def dotted (name : String) : String :=
  let name := Text.strip name
  if isParenthesized name then name
  else String.intercalate "." ((Text.splitDots name).map fun part => d.quote (Text.strip part))

/-- A dotted name, with an alias after the word `as`; of several, the last alias counts. -/
def identifier (name : String) : String :=
  let name := Text.strip name
  if isParenthesized name then name
  else
    match Text.splitAlias name with
    | target :: name :: rest =>
      d.dotted target ++ " AS " ++ d.quote ((name :: rest).getLast (List.cons_ne_nil _ _))
    | _ => d.dotted name

def identifiers (names : List String) : String :=
  String.intercalate ", " (names.map d.identifier)

/-- Verbatim SQL with its marked names in quotes. -/
def quoteMarkers (expression : String) : String := Text.mapMarkers d.identifier expression

end Dialect

end PolySql
