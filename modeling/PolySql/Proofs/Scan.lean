import PolySql.Proofs.Composed.Basic
import PolySql.Proofs.Separator

/-!
Quoted names, read back. Main statement: a reader that knows nothing but the quotes of a dialect
finds in an identifier the names that it was put together from, and nothing besides.
-/

namespace PolySql

open Text

/-- Reads a name up to the quote that closes it; a closing quote written twice stands for one. -/
def scanName (closing : Char) : List Char → Option (List Char × List Char)
  | [] => none
  | [c] => if c = closing then some ([], []) else none
  | c :: d :: cs =>
    if c = closing then
      if d = closing then (scanName closing cs).map fun p => (closing :: p.1, p.2)
      else some ([], d :: cs)
    else (scanName closing (d :: cs)).map fun p => (c :: p.1, p.2)

/-- Reads a name in quotes, and gives what follows it. -/
def scan (opening closing : Char) : List Char → Option (String × List Char)
  | [] => none
  | c :: cs =>
    if c = opening then (scanName closing cs).map fun p => (String.ofList p.1, p.2) else none

/-- Reads a name in quotes, or a bare star. -/
def readItem (opening closing : Char) (cs : List Char) : Option (String × List Char) :=
  match cs with
  | '*' :: rest => some ("*", rest)
  | cs => scan opening closing cs

section Length

variable {opening closing : Char} {cs rest : List Char}

theorem length_scanName {name : List Char} (h : scanName closing cs = some (name, rest)) :
    rest.length < cs.length := by
  fun_induction scanName closing cs generalizing name with
  | case1 => cases h
  | case2 =>
    cases h
    exact Nat.zero_lt_one
  | case3 => cases h
  | case4 cs ih =>
    obtain ⟨p, hp, h⟩ := Option.map_eq_some_iff.mp h
    obtain ⟨-, rfl⟩ := Prod.mk.inj h
    have := ih hp
    rw [List.length_cons, List.length_cons]
    omega
  | case5 d cs =>
    cases h
    exact Nat.lt_succ_self _
  | case6 c d cs _ ih =>
    obtain ⟨p, hp, h⟩ := Option.map_eq_some_iff.mp h
    obtain ⟨-, rfl⟩ := Prod.mk.inj h
    exact (ih hp).trans (Nat.lt_succ_self _)

theorem length_readItem {item : String} (h : readItem opening closing cs = some (item, rest)) :
    rest.length < cs.length := by
  unfold readItem at h
  split at h
  · cases h
    simp
  · unfold scan at h
    split at h
    · cases h
    · split at h
      · obtain ⟨p, hp, h⟩ := Option.map_eq_some_iff.mp h
        obtain ⟨-, rfl⟩ := Prod.mk.inj h
        exact (length_scanName hp).trans (Nat.lt_succ_self _)
      · cases h

end Length

/-- Reads items with single dots between them, as many as there are. -/
def readItems (opening closing : Char) (cs : List Char) : Option (List String × List Char) :=
  match _h : readItem opening closing cs with
  | none => none
  | some (item, '.' :: rest) =>
    (readItems opening closing rest).map fun p => (item :: p.1, p.2)
  | some (item, rest) => some ([item], rest)
termination_by cs.length
decreasing_by
  have := length_readItem _h
  simp only [List.length_cons] at this
  omega

section Items

variable {opening closing : Char} {cs rest : List Char} {item : String}

theorem readItems_dot (h : readItem opening closing cs = some (item, '.' :: rest)) :
    readItems opening closing cs =
      (readItems opening closing rest).map fun p => (item :: p.1, p.2) := by
  rw [readItems]
  split <;> simp_all

theorem readItems_last (h : readItem opening closing cs = some (item, rest))
    (hdot : rest.head? ≠ some '.') : readItems opening closing cs = some ([item], rest) := by
  rw [readItems]
  split
  · simp_all
  · next hread =>
    rw [h] at hread
    cases hread
    exact absurd rfl hdot
  · simp_all

end Items

/-- Reads a whole text as items with dots between them, and maybe one more item behind ` AS `. -/
def readIdentifier (opening closing : Char) (cs : List Char) :
    Option (List String × Option String) :=
  match readItems opening closing cs with
  | some (items, []) => some (items, none)
  | some (items, ' ' :: 'A' :: 'S' :: ' ' :: rest) =>
    match readItem opening closing rest with
    | some (item, []) => some (items, some item)
    | _ => none
  | _ => none

section Identifier

variable {opening closing : Char} {cs rest : List Char} {items : List String}

theorem readIdentifier_plain (h : readItems opening closing cs = some (items, [])) :
    readIdentifier opening closing cs = some (items, none) := by
  simp only [readIdentifier, h]

theorem readIdentifier_alias {item : String}
    (h : readItems opening closing cs = some (items, " AS ".toList ++ rest))
    (hitem : readItem opening closing rest = some (item, [])) :
    readIdentifier opening closing cs = some (items, some item) := by
  have hword : " AS ".toList ++ rest = ' ' :: 'A' :: 'S' :: ' ' :: rest := rfl
  rw [hword] at h
  simp only [readIdentifier, h, hitem]

end Identifier

/-- The quotes of a dialect are single characters, and no characters that stand outside quotes. -/
structure Dialect.QuotesBy (d : Dialect) (opening closing : Char) : Prop where
  openQuote : d.openQuote = String.singleton opening
  closeQuote : d.closeQuote = String.singleton closing
  star : opening ≠ '*'
  paren : opening ≠ '('
  dot : closing ≠ '.'
  blank : closing ≠ ' '

theorem Dialect.exists_quotesBy {d : Dialect} (h : d ∈ Dialect.builtin) :
    ∃ opening closing, d.QuotesBy opening closing := by
  simp only [Dialect.builtin, List.mem_cons, List.not_mem_nil, or_false] at h
  rcases h with rfl | rfl | rfl | rfl
  · exact ⟨'"', '"', rfl, rfl, by decide, by decide, by decide, by decide⟩
  · exact ⟨'"', '"', rfl, rfl, by decide, by decide, by decide, by decide⟩
  · exact ⟨'`', '`', rfl, rfl, by decide, by decide, by decide, by decide⟩
  · exact ⟨'[', ']', rfl, rfl, by decide, by decide, by decide, by decide⟩

section Name

variable {opening closing : Char} {rest : List Char}

theorem scanName_cons_of_ne {c : Char} (h : c ≠ closing) (cs : List Char) :
    scanName closing (c :: cs) = (scanName closing cs).map fun p => (c :: p.1, p.2) := by
  cases cs with
  | nil =>
    rw [scanName, scanName, Option.map_none]
    exact if_neg h
  | cons d cs => rw [scanName, if_neg h]

/-- A single closing quote ends the name. -/
theorem scanName_closing (h : rest.head? ≠ some closing) :
    scanName closing (closing :: rest) = some ([], rest) := by
  cases rest with
  | nil => rw [scanName, if_pos rfl]
  | cons d ds =>
    have hd : d ≠ closing := by simpa using h
    rw [scanName, if_pos rfl, if_neg hd]

/-- Doubled quotes are read as the name that they were doubled in. -/
theorem scanName_doubleQuotes (h : rest.head? ≠ some closing) (name : List Char) :
    scanName closing (doubleQuotes [closing] 0 name ++ closing :: rest) = some (name, rest) := by
  induction name with
  | nil => exact scanName_closing h
  | cons c name ih =>
    rw [doubleQuotes_cons]
    split
    · next hc =>
      rw [List.cons_append, List.cons_append, scanName, if_pos rfl, if_pos rfl, ih, hc]
      rfl
    · next hc =>
      rw [List.cons_append, scanName_cons_of_ne hc, ih]
      rfl

end Name

/-- A dotted name is the row of its quoted parts. -/
theorem Dialect.dotted_eq (d : Dialect) {s : String} (h : ¬ isParenthesized (strip s)) :
    d.dotted s = String.intercalate "." (((splitDots s).map strip).map d.quote) := by
  rw [Dialect.dotted]
  simp only [if_neg h]
  rw [← map_strip_splitDots_strip, List.map_map]
  rfl

namespace Dialect.QuotesBy

variable {d : Dialect} {opening closing : Char} (hd : d.QuotesBy opening closing)

include hd

theorem toList_quote {name : String} (h : name ≠ "*") :
    (d.quote name).toList =
      opening :: (doubleQuotes [closing] 0 name.toList ++ [closing]) := by
  rw [Dialect.quote, if_neg h, hd.openQuote, hd.closeQuote]
  simp

/-- A name in quotes is read as the name, whatever follows it but a closing quote. -/
theorem scan_quote {name : String} (hname : name ≠ "*") {rest : List Char}
    (hrest : rest.head? ≠ some closing) :
    scan opening closing ((d.quote name).toList ++ rest) = some (name, rest) := by
  rw [hd.toList_quote hname, List.cons_append, List.append_assoc, scan, if_pos rfl,
    List.singleton_append, scanName_doubleQuotes hrest, Option.map_some, String.ofList_toList]

theorem readItem_quote (name : String) {rest : List Char} (hrest : rest.head? ≠ some closing) :
    readItem opening closing ((d.quote name).toList ++ rest) = some (name, rest) := by
  by_cases hname : name = "*"
  · rw [hname, Dialect.quote, if_pos rfl]
    rfl
  · have hscan := hd.scan_quote hname hrest
    rw [hd.toList_quote hname, List.cons_append] at hscan ⊢
    rw [← hscan, readItem]
    intro ds hds
    exact hd.star (List.cons.inj hds).1

theorem quote_injective : Function.Injective d.quote := by
  intro name name' h
  have hrest : ([] : List Char).head? ≠ some closing := by simp
  have hread := hd.readItem_quote name hrest
  rw [h, hd.readItem_quote name' hrest] at hread
  exact (congrArg Prod.fst (Option.some.inj hread)).symm

theorem readItems_dots {names : List String} (hne : names ≠ []) {rest : List Char}
    (hrest : rest.head? ≠ some closing) (hdot : rest.head? ≠ some '.') :
    readItems opening closing ((String.intercalate "." (names.map d.quote)).toList ++ rest) =
      some (names, rest) := by
  induction names with
  | nil => exact absurd rfl hne
  | cons name names ih =>
    cases names with
    | nil =>
      rw [List.map_singleton, String.intercalate_singleton]
      exact readItems_last (hd.readItem_quote name hrest) hdot
    | cons name' names =>
      have hmore := ih (List.cons_ne_nil _ _)
      rw [List.map_cons, List.map_cons, String.intercalate_cons_cons, ← List.map_cons,
        String.toList_append, String.toList_append, List.append_assoc, List.append_assoc]
      have hitem : readItem opening closing ((d.quote name).toList ++ (".".toList ++
          ((String.intercalate "." ((name' :: names).map d.quote)).toList ++ rest))) =
          some (name, '.' :: ((String.intercalate "." ((name' :: names).map d.quote)).toList ++
            rest)) := by
        refine hd.readItem_quote name ?_
        simpa using hd.dot.symm
      rw [readItems_dot hitem, hmore, Option.map_some]

theorem readItems_dotted {s : String} (h : ¬ isParenthesized (strip s)) {rest : List Char}
    (hrest : rest.head? ≠ some closing) (hdot : rest.head? ≠ some '.') :
    readItems opening closing ((d.dotted s).toList ++ rest) =
      some ((splitDots s).map strip, rest) := by
  have hparts : (splitDots s).map strip ≠ [] := by
    simp [splitDots, pieces_ne_nil]
  rw [d.dotted_eq h]
  exact hd.readItems_dots hparts hrest hdot

/-- The parts of the name in front of the first separator, and the last alias. -/
theorem readIdentifier_identifier {s target : String} {aliases : List String} (h : IsName s)
    (hsplit : splitAlias (strip s) = target :: aliases) :
    readIdentifier opening closing (d.identifier s).toList =
      some ((splitDots target).map strip, aliases.getLast?) := by
  have hend : ([] : List Char).head? ≠ some closing := by simp
  have hend' : ([] : List Char).head? ≠ some '.' := by simp
  have htarget := h.target target (by rw [hsplit]; rfl)
  rw [Dialect.identifier]
  simp only [if_neg h.whole, hsplit]
  cases aliases with
  | nil =>
    have hone : ¬ HasSeparator (strip s).toList := by
      rw [← one_lt_length_splitAlias_iff, hsplit]
      exact Nat.lt_irrefl 1
    rw [splitAlias_of_no_separator hone] at hsplit
    obtain ⟨rfl, -⟩ := List.cons.inj hsplit
    have hread := hd.readItems_dotted htarget hend hend'
    rw [List.append_nil] at hread
    exact readIdentifier_plain hread
  | cons name rest =>
    simp only [String.toList_append, List.append_assoc]
    have hread : ∀ cs, readItems opening closing
        ((d.dotted target).toList ++ (" AS ".toList ++ cs)) =
          some ((splitDots target).map strip, " AS ".toList ++ cs) := by
      intro cs
      apply hd.readItems_dotted htarget
      · simpa using hd.blank.symm
      · simp
    have hname := hd.readItem_quote ((name :: rest).getLast (List.cons_ne_nil _ _)) hend
    rw [List.append_nil] at hname
    rw [readIdentifier_alias (hread _) hname, List.getLast?_eq_some_getLast (List.cons_ne_nil _ _)]

end Dialect.QuotesBy

/-- Quoting can be undone, and nothing in a name gets out of its quotes. In each dialect a quoted
name is read as the name, whatever follows it but a closing quote, so that no two names are quoted
alike. All of the identifier for a name, cut at its separators, is read as items: the parts between
the dots of what stands in front of the first separator, without blanks around them, and behind
` AS ` what stands behind the last one, if there is any. -/
theorem identifier_readable {d : Dialect} (hd : d ∈ Dialect.builtin) :
    ∃ opening closing, d.openQuote = String.singleton opening ∧
      d.closeQuote = String.singleton closing ∧
      (∀ name rest : String, name ≠ "*" → rest.toList.head? ≠ some closing →
        scan opening closing (d.quote name ++ rest).toList = some (name, rest.toList)) ∧
      Function.Injective d.quote ∧
      ∀ (s target : String) (aliases : List String), IsName s →
        splitAlias (strip s) = target :: aliases →
        readIdentifier opening closing (d.identifier s).toList =
          some ((splitDots target).map strip, aliases.getLast?) ∧
        (aliases ≠ [] ↔ HasSeparator (strip s).toList) ∧
        Cut (strip s).toList ((target :: aliases).map String.toList) := by
  obtain ⟨opening, closing, hquotes⟩ := Dialect.exists_quotesBy hd
  refine ⟨opening, closing, hquotes.openQuote, hquotes.closeQuote, fun name rest hname hrest => ?_,
    hquotes.quote_injective, fun s target aliases hs hsplit =>
      ⟨hquotes.readIdentifier_identifier hs hsplit, ?_, ?_⟩⟩
  · rw [String.toList_append]
    exact hquotes.scan_quote hname hrest
  · rw [← one_lt_length_splitAlias_iff, hsplit, List.length_cons, Nat.lt_add_left_iff_pos,
      List.length_pos_iff]
  · rw [← hsplit]
    exact cut_splitAlias (strip s)

/-- A name that holds a closing quote and a separator, with two aliases. -/
theorem identifier_readable_sqlServer :
    Dialect.sqlServer ∈ Dialect.builtin ∧ IsName " dbo . a]b as x As c.*" ∧
      Dialect.sqlServer.identifier " dbo . a]b as x As c.*" = "[dbo].[a]]b] AS [c.*]" ∧
      readIdentifier '[' ']' (Dialect.sqlServer.identifier " dbo . a]b as x As c.*").toList =
        some (["dbo", "a]b"], some "c.*") ∧
      scan '[' ']' (Dialect.sqlServer.quote "a]]]" ++ " AS *").toList =
        some ("a]]]", " AS *".toList) := by
  have hname : IsName " dbo . a]b as x As c.*" := ⟨by decide +kernel, by decide +kernel⟩
  have hsplit : splitAlias (strip " dbo . a]b as x As c.*") = ["dbo . a]b", "x", "c.*"] := by
    decide +kernel
  obtain ⟨opening, closing, hopening, hclosing, hscan, -, hread⟩ :=
    identifier_readable (d := .sqlServer) (by decide)
  have hopen : opening = '[' := by
    simpa using (congrArg String.toList hopening).symm
  have hclose : closing = ']' := by
    simpa using (congrArg String.toList hclosing).symm
  rw [hopen, hclose] at hread
  rw [hclose] at hscan
  rw [hopen] at hscan
  refine ⟨by decide, hname, by decide +kernel, ?_, ?_⟩
  · rw [(hread _ _ _ hname hsplit).1]
    decide +kernel
  · exact hscan "a]]]" " AS *" (by decide) (by decide)

end PolySql
