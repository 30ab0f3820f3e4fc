import Mathlib.Data.List.Basic
import PolySql.Text.Blank

/-!
Texts with and without blanks at their ends. Main statements: what is solid stays when it is
stripped, and so does what stands in front of a text that starts with no blank.
-/

namespace PolySql

open Text

section DropWhile

variable {p : Char → Bool} {a : Char} {xs ys cs : List Char}

theorem dropWhile_append_of_head (ha : p a = false) :
    (xs ++ a :: ys).dropWhile p = xs.dropWhile p ++ a :: ys := by
  rw [List.dropWhile_append]
  split
  · next hempty =>
    rw [List.isEmpty_iff.mp hempty, List.nil_append, List.dropWhile_cons, ha]
    rfl
  · rfl

theorem dropWhile_of_head (ha : p a = false) : (a :: cs).dropWhile p = a :: cs := by
  rw [List.dropWhile_cons, ha]
  rfl

theorem head_of_dropWhile_eq (h : (a :: cs).dropWhile p = a :: cs) : p a = false := by
  rw [Bool.eq_false_iff]
  intro ha
  rw [List.dropWhile_cons, if_pos ha] at h
  have hle := (List.dropWhile_sublist p (l := cs)).length_le
  rw [h, List.length_cons] at hle
  omega

/-- A text with nothing to trim neither starts nor ends with what is trimmed. -/
theorem ends_of_trimBoth (h : trimBoth p cs = cs) :
    cs.dropWhile p = cs ∧ cs.reverse.dropWhile p = cs.reverse := by
  have hsub := List.dropWhile_sublist p (l := cs)
  have hsub' := List.dropWhile_sublist p (l := (cs.dropWhile p).reverse)
  have hlength := congrArg List.length h
  rw [trimBoth, List.length_reverse] at hlength
  have hle := hsub.length_le
  have hle' := hsub'.length_le
  rw [List.length_reverse] at hle'
  have hfirst : cs.dropWhile p = cs := hsub.eq_of_length (by omega)
  refine ⟨hfirst, ?_⟩
  rw [trimBoth, hfirst] at h
  rw [← List.reverse_reverse (cs.reverse.dropWhile p), h]

end DropWhile

/-- The text starts with a character that is not blank. -/
def Starts (s : String) : Prop := ∃ a cs, s.toList = a :: cs ∧ isBlank a = false

/-- The text ends with a character that is not blank. -/
def Ends (s : String) : Prop := ∃ a cs, s.toList = cs ++ [a] ∧ isBlank a = false

theorem Starts.append {s : String} (h : Starts s) (t : String) : Starts (s ++ t) := by
  obtain ⟨a, cs, hs, ha⟩ := h
  exact ⟨a, cs ++ t.toList, by rw [String.toList_append, hs, List.cons_append], ha⟩

theorem Ends.append {t : String} (h : Ends t) (s : String) : Ends (s ++ t) := by
  obtain ⟨a, cs, ht, ha⟩ := h
  exact ⟨a, s.toList ++ cs, by rw [String.toList_append, ht, List.append_assoc], ha⟩

theorem strip_of_ends {s : String} (hs : Starts s) (he : Ends s) : strip s = s := by
  obtain ⟨a, cs, hcs, ha⟩ := hs
  obtain ⟨b, ds, hds, hb⟩ := he
  rw [← String.toList_inj, strip, String.toList_ofList, trimBoth]
  have hfirst : s.toList.dropWhile isBlank = s.toList := by
    rw [hcs, dropWhile_of_head ha]
  have hlast : s.toList.reverse.dropWhile isBlank = s.toList.reverse := by
    rw [hds, List.reverse_append, List.reverse_singleton, List.singleton_append,
      dropWhile_of_head hb]
  rw [hfirst, hlast, List.reverse_reverse]

/-- SQL text that is not empty and has no blanks at its ends. -/
structure Solid (s : String) : Prop where
  nonempty : s ≠ ""
  strip : strip s = s

namespace Solid

variable {s : String} (hs : Solid s)

include hs

theorem trimBoth_eq : trimBoth isBlank s.toList = s.toList := by
  have h := congrArg String.toList hs.strip
  rwa [Text.strip, String.toList_ofList] at h

theorem starts : Starts s := by
  have hends := (ends_of_trimBoth hs.trimBoth_eq).1
  cases hcs : s.toList with
  | nil => exact absurd (String.toList_eq_nil_iff.mp hcs) hs.nonempty
  | cons a cs =>
    rw [hcs] at hends
    exact ⟨a, cs, hcs, head_of_dropWhile_eq hends⟩

theorem ends : Ends s := by
  have hends := (ends_of_trimBoth hs.trimBoth_eq).2
  cases hcs : s.toList.reverse with
  | nil =>
    rw [List.reverse_eq_nil_iff] at hcs
    exact absurd (String.toList_eq_nil_iff.mp hcs) hs.nonempty
  | cons a cs =>
    rw [hcs] at hends
    refine ⟨a, cs.reverse, ?_, head_of_dropWhile_eq hends⟩
    rw [← List.reverse_reverse s.toList, hcs, List.reverse_cons]

end Solid

theorem solid_singleton {c : Char} (h : isBlank c = false) : Solid (String.singleton c) where
  nonempty hempty := by simpa using congrArg String.toList hempty
  strip := strip_of_ends ⟨c, [], String.toList_singleton c, h⟩ ⟨c, [], String.toList_singleton c, h⟩

/-- Some character of the text is not blank. -/
def Inked (s : String) : Prop := ∃ c ∈ s.toList, isBlank c = false

instance (s : String) : Decidable (Inked s) :=
  List.decidableBEx (fun c => isBlank c = false) s.toList

theorem Starts.inked {s : String} (h : Starts s) : Inked s := by
  obtain ⟨a, cs, hs, ha⟩ := h
  exact ⟨a, by rw [hs]; exact List.mem_cons_self, ha⟩

theorem inked_append (s t : String) : Inked (s ++ t) ↔ Inked s ∨ Inked t := by
  simp only [Inked, String.toList_append, List.mem_append, or_and_right, exists_or]

theorem mem_trimBoth {c : Char} {cs : List Char} (h : c ∈ cs) (hc : isBlank c = false) :
    c ∈ trimBoth isBlank cs := by
  have hdrop : ∀ {ds : List Char}, c ∈ ds → c ∈ ds.dropWhile isBlank := by
    intro ds hds
    obtain ⟨xs, ys, rfl⟩ := List.append_of_mem hds
    rw [dropWhile_append_of_head hc]
    exact List.mem_append_right _ List.mem_cons_self
  rw [trimBoth, List.mem_reverse]
  exact hdrop (List.mem_reverse.mpr (hdrop h))

theorem Inked.strip {s : String} (h : Inked s) : Inked (strip s) := by
  obtain ⟨c, hc, hblank⟩ := h
  refine ⟨c, ?_, hblank⟩
  rw [Text.strip, String.toList_ofList]
  exact mem_trimBoth hc hblank

theorem Inked.ne_empty {s : String} (h : Inked s) : s ≠ "" := by
  rintro rfl
  obtain ⟨c, hc, -⟩ := h
  cases hc

theorem solid_of_ends {s u : String} (hs : Starts s) (hu : Ends u) : Solid (s ++ u) := by
  have hstarts := hs.append u
  exact ⟨hstarts.inked.ne_empty, strip_of_ends hstarts (hu.append s)⟩

theorem not_blank_of_dropWhile {p : Char → Bool} {a : Char} {cs ds : List Char}
    (h : cs.dropWhile p = a :: ds) : p a = false := by
  have hhead := List.head_dropWhile_not p (w := by rw [h]; exact List.cons_ne_nil a ds)
  simpa only [h, List.head_cons] using hhead

theorem strip_strip (s : String) : strip (strip s) = strip s := by
  cases hfirst : s.toList.dropWhile isBlank with
  | nil =>
    have hempty : strip s = "" := by
      rw [strip, trimBoth, hfirst]
      rfl
    rw [hempty]
    rfl
  | cons a cs =>
    have ha := not_blank_of_dropWhile hfirst
    have hlast : (a :: cs).reverse.dropWhile isBlank = cs.reverse.dropWhile isBlank ++ [a] := by
      rw [List.reverse_cons, dropWhile_append_of_head ha]
    have hstrip : (strip s).toList = ((a :: cs).reverse.dropWhile isBlank).reverse := by
      rw [strip, String.toList_ofList, trimBoth, hfirst]
    -- What is left starts as the trimmed front did, and ends where trimming from behind stopped.
    apply strip_of_ends
    · refine ⟨a, (cs.reverse.dropWhile isBlank).reverse, ?_, ha⟩
      rw [hstrip, hlast, List.reverse_append, List.reverse_singleton, List.singleton_append]
    · cases hends : (a :: cs).reverse.dropWhile isBlank with
      | nil =>
        rw [hlast] at hends
        exact absurd hends (List.append_ne_nil_of_right_ne_nil _ (List.cons_ne_nil a []))
      | cons b ds =>
        refine ⟨b, ds.reverse, ?_, not_blank_of_dropWhile hends⟩
        rw [hstrip, hends, List.reverse_cons]

end PolySql
