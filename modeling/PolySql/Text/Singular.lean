import PolySql.Text.Word

/-!
The singular of an English noun, by rules for its ending. A rule keeps the front of what it
matches and puts another ending in place of the rest; the first rule that matches decides.
-/

namespace PolySql.Text

namespace Singular

/-- The small letter that a letter stands for where case does not matter. -/
def fold (c : Char) : Char :=
  if c = 'ſ' then 's'
  else if c = 'ı' ∨ c = 'İ' then 'i'
  else if c = '\u212A' then 'k'
  else c.toLower

inductive Letter
  /-- One of these letters, in any case. -/
  | among (cs : List Char)
  /-- None of these letters, in any case. -/
  | except (cs : List Char)
  /-- One of these letters, as they stand. -/
  | exactly (cs : List Char)

def Letter.accepts (c : Char) : Letter → Bool
  | .among cs => cs.contains (fold c)
  | .except cs => !cs.contains (fold c)
  | .exactly cs => cs.contains c

abbrev Pattern := List Letter

def word (s : String) : Pattern := s.toList.map fun c => .among [c]

def words (ws : List String) : List Pattern := ws.map word

def accepts : Pattern → List Char → Bool
  | [], [] => true
  | l :: ls, c :: cs => l.accepts c && accepts ls cs
  | _, _ => false

inductive Place
  | atEnd
  | whole
  | atStart

structure Rule where
  /-- What may stand in front of the ending and is kept. -/
  keep : List Pattern
  /-- The endings that are replaced. -/
  drop : List Pattern
  put : String
  place : Place

abbrev ending (keep drop : List String) (put : String) : Rule :=
  ⟨words keep, words drop, put, .atEnd⟩

def rules : List Rule :=
  [ending ["z"] ["ombies"] "ombie",
   ⟨[[]], [[.exactly ['k'], .exactly ['i', 'I'], .exactly ['n', 'N'], .exactly ['e', 'E']]],
    "cow", .atEnd⟩,
   ⟨[[]], [[.exactly ['K'], .exactly ['i', 'I'], .exactly ['n', 'N'], .exactly ['e', 'E']]],
    "Cow", .atEnd⟩,
   ending ["m"] ["oves"] "ove",
   ending ["s"] ["exes"] "ex",
   ending ["c"] ["hildren"] "hild",
   ending ["h"] ["umans"] "uman",
   ending ["m"] ["en"] "an",
   ending ["p"] ["eople"] "erson",
   ending ["database"] ["s"] "",
   ending ["quiz"] ["zes"] "",
   ending ["matr"] ["ices"] "ix",
   ending ["vert", "ind"] ["ices"] "ex",
   ending ["passer"] ["sby"] "by",
   ⟨words ["ox"], words ["en"], "", .atStart⟩,
   ending ["alias", "status"] ["es", ""] "",
   ending ["octop", "vir"] ["us", "i"] "us",
   ⟨words ["a"], words ["xis", "xes"], "xis", .whole⟩,
   ending ["cris", "test"] ["is", "es"] "is",
   ending ["shoe"] ["s"] "",
   ending ["o"] ["es"] "",
   ending ["bus"] ["es", ""] "",
   ending ["m", "l"] ["ice"] "ouse",
   ending ["x", "ch", "ss", "sh"] ["es"] "",
   ending ["m"] ["ovies"] "ovie",
   ending ["s"] ["eries"] "eries",
   ⟨[[.except ['a', 'e', 'i', 'o', 'u', 'y']], word "qu"], words ["ies"], "y", .atEnd⟩,
   ending ["l", "r"] ["ves"] "f",
   ending ["tive"] ["s"] "",
   ending ["hive"] ["s"] "",
   ⟨[[.except ['f']]], words ["ves"], "fe", .atEnd⟩,
   ending ["t"] ["hesis", "heses"] "hesis",
   ending ["s"] ["ynopsis", "ynopses"] "ynopsis",
   ending ["p"] ["rognosis", "rognoses"] "rognosis",
   ending ["p"] ["arenthesis", "arentheses"] "arenthesis",
   ending ["d"] ["iagnosis", "iagnoses"] "iagnosis",
   ending ["b"] ["asis", "ases"] "asis",
   ending ["a"] ["nalysis", "nalyses"] "nalysis",
   ending ["t", "i"] ["a"] "um",
   ending ["n"] ["ews"] "ews",
   ending ["ss"] [""] "",
   ending [""] ["s"] ""]

/-- Nouns without a plural of their own. -/
def uncountable : List String :=
  ["equipment", "fish", "information", "jeans", "money", "rice", "series", "sheep", "species"]

/-- The last `n` characters, after the others, if there are as many. -/
def splitLast? (n : Nat) (cs : List Char) : Option (List Char × List Char) :=
  if n ≤ cs.length then some (cs.splitAt (cs.length - n)) else none

/-- A line break at the end, apart from the rest. -/
def splitBreak (cs : List Char) : List Char × List Char :=
  if cs.getLast? = some '\n' then (cs.dropLast, ['\n']) else (cs, [])

/-- Applies a rule with one choice of the patterns to keep and to drop. -/
def Rule.applyWith (r : Rule) (keep drop : Pattern) (cs : List Char) : Option (List Char) :=
  let pattern := keep ++ drop
  match r.place with
  | .atEnd => do
    let (line, lineBreak) := splitBreak cs
    let (front, last) ← splitLast? pattern.length line
    if accepts pattern last then
      some (front ++ last.take keep.length ++ r.put.toList ++ lineBreak)
    else none
  | .whole =>
    let (line, lineBreak) := splitBreak cs
    if accepts pattern line then some (line.take keep.length ++ r.put.toList ++ lineBreak)
    else none
  | .atStart =>
    let (front, rest) := cs.splitAt pattern.length
    if accepts pattern front then some (front.take keep.length ++ r.put.toList ++ rest) else none

def Rule.result? (r : Rule) (cs : List Char) : Option (List Char) :=
  r.keep.findSome? fun keep => r.drop.findSome? fun drop => r.applyWith keep drop cs

/-- Whether the text ends in the noun `noun`, as a word. -/
def endsInWord (noun : String) (cs : List Char) : Bool :=
  match splitLast? noun.length cs with
  | none => false
  | some (front, last) => accepts (word noun) last && !front.getLast?.any isWord

def isUncountable (cs : List Char) : Bool := uncountable.any (endsInWord · cs)

end Singular

open Singular in
def singular (s : String) : String :=
  let cs := s.toList
  if isUncountable cs then s
  else String.ofList ((rules.findSome? (·.result? cs)).getD cs)

end PolySql.Text
