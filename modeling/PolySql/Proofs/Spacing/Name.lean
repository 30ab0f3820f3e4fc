import PolySql.Proofs.Exposure
import PolySql.Proofs.Scan
import PolySql.Proofs.Spacing.Text

/-!
Names with single spaces. Main statements: a singly spaced name is written as a neat identifier
(`Dialect.neat_identifier`), and so is its singular (`singleSpaced_singular`).
-/

namespace PolySql

open Text

section Pieces

variable {width : List Char → Nat} {skip : Nat} {cs w : List Char}

theorem infix_of_mem_pieces (h : w ∈ pieces width skip cs) : w <:+: cs := by
  induction cs generalizing skip w with
  | nil =>
    rw [pieces, List.mem_singleton] at h
    exact h ▸ List.nil_infix
  | cons c cs ih =>
    have hbehind : ∀ {skip : Nat}, w ∈ pieces width skip cs → w <:+: c :: cs :=
      fun hw => (ih hw).trans (List.suffix_cons c cs).isInfix
    unfold pieces at h
    split at h
    · exact hbehind h
    · cases hpieces : pieces width 0 cs with
      | nil => exact absurd hpieces (pieces_ne_nil _ _ _)
      | cons v vs =>
        rw [hpieces, consFirst] at h
        rcases List.mem_cons.mp h with rfl | hw
        · exact ((List.prefix_cons_inj c).mpr (prefix_of_pieces hpieces)).isInfix
        · exact hbehind (hpieces ▸ List.mem_cons_of_mem v hw)
    · rcases List.mem_cons.mp h with rfl | hw
      · exact List.nil_infix
      · exact hbehind hw

end Pieces

section Split

variable {s part : String} (h : SingleSpaced s.toList)

include h

theorem singleSpaced_strip : SingleSpaced (strip s).toList := by
  rw [strip, String.toList_ofList]
  exact h.of_infix (trimBoth_inside _ _)

theorem singleSpaced_of_mem_splitDots (hpart : part ∈ splitDots s) :
    SingleSpaced part.toList := by
  obtain ⟨w, hw, rfl⟩ := List.mem_map.mp hpart
  rw [String.toList_ofList]
  exact h.of_infix (infix_of_mem_pieces hw)

theorem singleSpaced_of_mem_splitAlias (hpart : part ∈ splitAlias s) :
    SingleSpaced part.toList := by
  obtain ⟨w, hw, rfl⟩ := List.mem_map.mp hpart
  rw [String.toList_ofList]
  exact h.of_infix (infix_of_mem_pieces hw)

end Split

theorem neat_intercalate {separator : String} (hspaced : SingleSpaced separator.toList)
    {texts : List String} (hne : texts ≠ []) (h : ∀ s ∈ texts, Neat s) :
    Neat (String.intercalate separator texts) := by
  induction texts with
  | nil => exact absurd rfl hne
  | cons s rest ih =>
    have hs := h s List.mem_cons_self
    cases rest with
    | nil => simpa using hs
    | cons s' rest =>
      rw [String.intercalate_cons_cons]
      exact hs.between (ih (List.cons_ne_nil _ _) fun u hu => h u (List.mem_cons_of_mem _ hu))
        hspaced

theorem neat_of_isParenthesized {s : String} (h : Dialect.isParenthesized s)
    (hspaced : SingleSpaced s.toList) : Neat s :=
  .of_ends (starts_of_isParenthesized h) (ends_of_isParenthesized h) hspaced

/-- The quotes of a dialect are single characters, and like its placeholder not blank. -/
structure Dialect.IsNeat (d : Dialect) : Prop where
  openQuote : Neat d.openQuote
  closeQuote : ∃ c, d.closeQuote = String.singleton c ∧ isBlank c = false
  placeholder : Neat d.placeholder

theorem Dialect.isNeat_of_mem_builtin {d : Dialect} (h : d ∈ Dialect.builtin) : d.IsNeat := by
  simp only [Dialect.builtin, List.mem_cons, List.not_mem_nil, or_false] at h
  rcases h with rfl | rfl | rfl | rfl
  · exact ⟨by decide, ⟨'"', rfl, by decide⟩, by decide⟩
  · exact ⟨by decide, ⟨'"', rfl, by decide⟩, by decide⟩
  · exact ⟨by decide, ⟨'`', rfl, by decide⟩, by decide⟩
  · exact ⟨by decide, ⟨']', rfl, by decide⟩, by decide⟩

namespace Dialect.IsNeat

variable {d : Dialect} (hd : d.IsNeat) {s : String} (h : SingleSpaced s.toList)

include hd

theorem neat_closeQuote : Neat d.closeQuote := by
  obtain ⟨c, hc, hblank⟩ := hd.closeQuote
  rw [hc]
  simpa using neat_of_not_blank (List.cons_ne_nil c []) (by simpa using hblank)

theorem respelled_doubleQuotes (cs : List Char) :
    Respelled cs (doubleQuotes d.closeQuote.toList 0 cs) := by
  obtain ⟨quote, hquote, hblank⟩ := hd.closeQuote
  rw [hquote, String.toList_singleton]
  induction cs with
  | nil => exact .nil
  | cons c cs ih =>
    rw [doubleQuotes_cons]
    split
    · have hdouble : Neat (String.ofList [quote, quote]) :=
        neat_of_not_blank (List.cons_ne_nil _ _) (by simpa using hblank)
      exact .cons (.inr hdouble) ih
    · exact .keep c ih

include h

theorem neat_quote : Neat (d.quote s) := by
  unfold Dialect.quote
  split
  · next hstar =>
    rw [hstar]
    decide
  · refine hd.openQuote.between hd.neat_closeQuote ?_
    rw [String.toList_ofList]
    exact ((hd.respelled_doubleQuotes s.toList).spaced h).1

theorem neat_dotted : Neat (d.dotted s) := by
  have hs := singleSpaced_strip h
  simp only [Dialect.dotted]
  split
  · next hparen => exact neat_of_isParenthesized hparen hs
  · refine neat_intercalate (by decide) (by simp [splitDots, pieces_ne_nil]) ?_
    rw [List.forall_mem_map]
    intro part hpart
    exact hd.neat_quote (singleSpaced_strip (singleSpaced_of_mem_splitDots hs hpart))

theorem neat_identifier : Neat (d.identifier s) := by
  have hs := singleSpaced_strip h
  have hparts : ∀ part ∈ splitAlias (strip s), SingleSpaced part.toList :=
    fun _ => singleSpaced_of_mem_splitAlias hs
  simp only [Dialect.identifier]
  split
  · next hparen => exact neat_of_isParenthesized hparen hs
  · split
    · next target name rest hsplit =>
      rw [hsplit] at hparts
      have hlast := hparts _
        (List.mem_cons_of_mem _ (List.getLast_mem (List.cons_ne_nil name rest)))
      exact (hd.neat_dotted (hparts _ List.mem_cons_self)).between (hd.neat_quote hlast) (by decide)
    · exact hd.neat_dotted hs

omit h in
theorem neat_identifiers {names : List String} (hne : names ≠ [])
    (h : ∀ s ∈ names, SingleSpaced s.toList) : Neat (d.identifiers names) := by
  refine neat_intercalate (by decide) (by simpa using hne) ?_
  rw [List.forall_mem_map]
  exact fun s hs => hd.neat_identifier (h s hs)

end Dialect.IsNeat

namespace Text.Singular

/-- A pattern that no space fits in takes no text with one. -/
theorem notMem_of_accepts {pattern : Pattern} {cs : List Char}
    (hpattern : pattern.all fun l => !l.accepts ' ') (h : accepts pattern cs) : ' ' ∉ cs := by
  fun_induction accepts pattern cs with
  | case1 => simp
  | case2 l ls c cs ih =>
    rw [List.all_cons, Bool.and_eq_true] at hpattern
    rw [Bool.and_eq_true] at h
    rw [List.mem_cons, not_or]
    refine ⟨?_, ih hpattern.2 h.2⟩
    rintro rfl
    simp [h.1] at hpattern
  | case3 => cases h

/-- The rule adds no space, and what it matches at the start of a text has none. -/
def Rule.isTight (r : Rule) : Bool :=
  !r.put.toList.contains ' ' &&
    match r.place with
    | .atStart => r.keep.all fun keep => r.drop.all fun drop =>
        (keep ++ drop).all fun l => !l.accepts ' '
    | _ => true

theorem prefix_splitBreak (cs : List Char) : (splitBreak cs).1 <+: cs := by
  unfold splitBreak
  split
  · exact List.dropLast_prefix cs
  · exact List.prefix_refl cs

theorem notMem_splitBreak (cs : List Char) : ' ' ∉ (splitBreak cs).2 := by
  unfold splitBreak
  split <;> simp

theorem singleSpaced_applyWith {r : Rule} {keep drop : Pattern} {cs out : List Char}
    (hr : r.isTight) (hkeep : keep ∈ r.keep) (hdrop : drop ∈ r.drop) (hcs : SingleSpaced cs)
    (h : r.applyWith keep drop cs = some out) : SingleSpaced out := by
  rw [Rule.isTight, Bool.and_eq_true] at hr
  have hput : ' ' ∉ r.put.toList := by simpa using hr.1
  -- Without spaces, what is put behind a text cannot meet one.
  have hbehind : ∀ {front back : List Char}, ' ' ∉ back → SingleSpaced front →
      SingleSpaced (front ++ back) := fun hback hfront =>
    hfront.append (singleSpaced_of_notMem hback) (.inr fun hhead => hback (List.mem_of_head? hhead))
  have hended : ∀ {front : List Char}, front <+: (splitBreak cs).1 →
      SingleSpaced (front ++ r.put.toList ++ (splitBreak cs).2) := fun hfront =>
    hbehind (notMem_splitBreak cs)
      (hbehind hput (hcs.of_infix (hfront.trans (prefix_splitBreak cs)).isInfix))
  unfold Rule.applyWith at h
  split at h
  · obtain ⟨⟨front, last⟩, hsplit, h⟩ := Option.bind_eq_some_iff.mp h
    simp only [Option.ite_none_right_eq_some, Option.some.injEq] at h
    obtain ⟨-, rfl⟩ := h
    simp only [splitLast?, Option.ite_none_right_eq_some, Option.some.injEq, List.splitAt_eq,
      Prod.mk.injEq] at hsplit
    obtain ⟨-, rfl, rfl⟩ := hsplit
    apply hended
    have hkept := (List.prefix_append_right_inj
      ((splitBreak cs).1.take ((splitBreak cs).1.length - (keep ++ drop).length))).mpr
      (List.take_prefix keep.length
        ((splitBreak cs).1.drop ((splitBreak cs).1.length - (keep ++ drop).length)))
    rwa [List.take_append_drop] at hkept
  · simp only [Option.ite_none_right_eq_some, Option.some.injEq] at h
    obtain ⟨-, rfl⟩ := h
    exact hended (List.take_prefix _ _)
  · next hplace =>
    rw [hplace] at hr
    simp only [List.splitAt_eq, Option.ite_none_right_eq_some, Option.some.injEq] at h
    obtain ⟨haccepts, rfl⟩ := h
    have hpattern := List.all_eq_true.mp (List.all_eq_true.mp hr.2 keep hkeep) drop hdrop
    have hfront := notMem_of_accepts hpattern haccepts
    have hmatched : ' ' ∉ (cs.take (keep ++ drop).length).take keep.length ++ r.put.toList := by
      rw [List.mem_append, not_or]
      exact ⟨fun hmem => hfront (List.mem_of_mem_take hmem), hput⟩
    refine (singleSpaced_of_notMem hmatched).append (hcs.of_infix (List.drop_suffix _ cs).isInfix)
      (.inl fun hlast => hmatched (List.mem_of_getLast? hlast))

end Text.Singular

theorem singleSpaced_singular {s : String} (h : SingleSpaced s.toList) :
    SingleSpaced (singular s).toList := by
  have hrules : Singular.rules.all Singular.Rule.isTight := by decide +kernel
  simp only [singular]
  split
  · exact h
  · rw [String.toList_ofList]
    cases hresult : Singular.rules.findSome? (·.result? s.toList) with
    | none => exact h
    | some out =>
      obtain ⟨r, hr, hout⟩ := List.exists_of_findSome?_eq_some hresult
      obtain ⟨keep, hkeep, hout⟩ := List.exists_of_findSome?_eq_some hout
      obtain ⟨drop, hdrop, hout⟩ := List.exists_of_findSome?_eq_some hout
      exact Singular.singleSpaced_applyWith (List.all_eq_true.mp hrules r hr) hkeep hdrop h hout

end PolySql
