import PolySql.Dialect.Identifier

/-!
Marks in quoted names. Main statement: dialects whose quotes hold no mark `?` write the same number
of marks for the same verbatim SQL.
-/

namespace PolySql

open Text

/-- The number of marks in a text. -/
def markCount (s : String) : Nat := s.toList.count '?'

@[simp] theorem markCount_append (s t : String) :
    markCount (s ++ t) = markCount s + markCount t := by
  simp [markCount]

@[simp] theorem markCount_ofList (cs : List Char) :
    markCount (String.ofList cs) = cs.count '?' := by
  simp [markCount]

/-- Texts put together alike have as many marks as each other if their parts do. -/
theorem markCount_intercalate {α : Type} {f g : α → String} (s : String) (as : List α)
    (h : ∀ a, markCount (f a) = markCount (g a)) :
    markCount (String.intercalate s (as.map f)) = markCount (String.intercalate s (as.map g)) := by
  induction as with
  | nil => rfl
  | cons a rest ih =>
    cases rest with
    | nil => simpa using h a
    | cons b rest =>
      simp only [List.map_cons, String.intercalate_cons_cons, markCount_append, h] at ih ⊢
      rw [ih]

theorem markCount_mapMarkers {f g : String → String}
    (h : ∀ name, markCount (f name) = markCount (g name)) (s : String) :
    markCount (mapMarkers f s) = markCount (mapMarkers g s) := by
  rw [mapMarkers, mapMarkers, markCount_ofList, markCount_ofList, List.count_flatMap,
    List.count_flatMap]
  refine congrArg List.sum (List.map_congr_left fun part _ => ?_)
  cases part with
  | char c => rfl
  | name cs => exact h (String.ofList cs)

/-- Doubling a quote adds no other character. -/
theorem count_doubleQuotes {quote : List Char} (hquote : '?' ∉ quote) (skip : Nat)
    (cs : List Char) : (doubleQuotes quote skip cs).count '?' = cs.count '?' := by
  induction cs generalizing skip with
  | nil => rfl
  | cons c cs ih =>
    cases skip with
    | succ k => simp only [doubleQuotes, List.count_cons, ih]
    | zero =>
      rw [doubleQuotes]
      split
      · simp only [List.count_append, List.count_cons, ih, List.count_eq_zero_of_not_mem hquote,
          Nat.zero_add]
      · simp only [List.count_cons, ih]

namespace Dialect

/-- No mark belongs to the quotes. -/
structure Unmarked (d : Dialect) : Prop where
  openQuote : '?' ∉ d.openQuote.toList
  closeQuote : '?' ∉ d.closeQuote.toList

theorem unmarked_of_mem_builtin {d : Dialect} (h : d ∈ builtin) : d.Unmarked := by
  have hquotes : ∀ d ∈ builtin, '?' ∉ d.openQuote.toList ∧ '?' ∉ d.closeQuote.toList := by decide
  exact ⟨(hquotes d h).1, (hquotes d h).2⟩

variable {d d' : Dialect} (hd : d.Unmarked) (hd' : d'.Unmarked)

include hd

theorem markCount_quote (name : String) : markCount (d.quote name) = markCount name := by
  have hopen : markCount d.openQuote = 0 := List.count_eq_zero_of_not_mem hd.openQuote
  have hclose : markCount d.closeQuote = 0 := List.count_eq_zero_of_not_mem hd.closeQuote
  unfold quote
  split
  · rfl
  · rw [markCount_append, markCount_append, hopen, hclose, markCount_ofList,
      count_doubleQuotes hd.closeQuote, Nat.zero_add, Nat.add_zero, markCount]

include hd'

theorem markCount_dotted (name : String) :
    markCount (d.dotted name) = markCount (d'.dotted name) := by
  unfold dotted
  simp only
  split
  · rfl
  · refine markCount_intercalate "." _ fun part => ?_
    rw [markCount_quote hd, markCount_quote hd']

theorem markCount_identifier (name : String) :
    markCount (d.identifier name) = markCount (d'.identifier name) := by
  unfold identifier
  simp only
  split
  · rfl
  · split
    · simp only [markCount_append, markCount_dotted hd hd', markCount_quote hd,
        markCount_quote hd']
    · exact markCount_dotted hd hd' _

theorem markCount_quoteMarkers (s : String) :
    markCount (d.quoteMarkers s) = markCount (d'.quoteMarkers s) :=
  markCount_mapMarkers (markCount_identifier hd hd') s

end Dialect

end PolySql
