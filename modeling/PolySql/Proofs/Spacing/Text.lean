import Mathlib.Data.List.Chain
import PolySql.Proofs.Mark
import PolySql.Proofs.Separator
import PolySql.Proofs.Trim

/-!
Texts with single spaces. Main statements: texts without blanks at their ends stay so, and singly
spaced, when they are put together (`Neat.between`), when parts of them are spelled in other neat
words (`Respelled.neat`), and in another case.
-/

namespace PolySql

open Text

/-- No two spaces stand next to each other. -/
def SingleSpaced (cs : List Char) : Prop := ¬ [' ', ' '] <:+: cs

section SingleSpaced

variable {cs ds : List Char}

theorem singleSpaced_iff_isChain : SingleSpaced cs ↔ cs.IsChain fun a b => a = ' ' → b ≠ ' ' := by
  rw [List.isChain_iff_forall_rel_of_append_cons_cons]
  constructor
  · rintro h a b front back rfl rfl rfl
    exact h ⟨front, back, by simp⟩
  · rintro h ⟨front, back, hcs⟩
    have hcut : cs = front ++ ' ' :: ' ' :: back := by simpa using hcs.symm
    exact h hcut rfl rfl

instance (cs : List Char) : Decidable (SingleSpaced cs) :=
  decidable_of_iff _ singleSpaced_iff_isChain.symm

theorem SingleSpaced.of_infix (h : SingleSpaced ds) (hinside : cs <:+: ds) : SingleSpaced cs :=
  fun hspaces => h (hspaces.trans hinside)

theorem singleSpaced_nil : SingleSpaced [] := by decide

theorem singleSpaced_of_notMem (h : ' ' ∉ cs) : SingleSpaced cs :=
  fun hspaces => h (hspaces.subset List.mem_cons_self)

theorem singleSpaced_cons {c : Char} :
    SingleSpaced (c :: cs) ↔ (c = ' ' → cs.head? ≠ some ' ') ∧ SingleSpaced cs := by
  rw [singleSpaced_iff_isChain, singleSpaced_iff_isChain, List.isChain_cons]
  refine and_congr_left fun _ => ?_
  constructor
  · exact fun h hc hhead => h ' ' hhead hc rfl
  · exact fun h b hb hc hspace => h hc (hspace ▸ hb)

/-- Spaces meet where texts are put together only if the first ends in one. -/
theorem SingleSpaced.append (h : SingleSpaced cs) (h' : SingleSpaced ds)
    (hends : cs.getLast? ≠ some ' ' ∨ ds.head? ≠ some ' ') : SingleSpaced (cs ++ ds) := by
  rw [singleSpaced_iff_isChain] at h h' ⊢
  refine List.isChain_append.mpr ⟨h, h', ?_⟩
  rintro a ha b hb rfl rfl
  exact hends.elim (· ha) (· hb)

end SingleSpaced

/-- The text is not empty, has no blanks at its ends, and single spaces inside. -/
structure Neat (s : String) : Prop extends Solid s where
  spaced : SingleSpaced s.toList

/-- The text may stand in front of a neat one, and end as it likes. -/
structure Opens (s : String) : Prop where
  starts : Starts s
  spaced : SingleSpaced s.toList

/-- The text may stand behind a neat one, and start as it likes. -/
structure Closes (s : String) : Prop where
  ends : Ends s
  spaced : SingleSpaced s.toList

instance (s : String) : Decidable (Starts s) :=
  decidable_of_iff (s.toList.head?.any (!isBlank ·)) (by
    cases hs : s.toList with
    | nil => simp [Starts, hs]
    | cons a cs => simp [Starts, hs])

instance (s : String) : Decidable (Ends s) :=
  decidable_of_iff (s.toList.getLast?.any (!isBlank ·)) (by
    rw [Option.any_eq_true]
    simp only [Ends, List.getLast?_eq_some_iff]
    constructor
    · rintro ⟨a, ⟨cs, hcs⟩, ha⟩
      exact ⟨a, cs, hcs, by simpa using ha⟩
    · rintro ⟨a, cs, hcs, ha⟩
      exact ⟨a, ⟨cs, hcs⟩, by simpa using ha⟩)

instance (s : String) : Decidable (Opens s) :=
  decidable_of_iff (Starts s ∧ SingleSpaced s.toList)
    ⟨fun h => ⟨h.1, h.2⟩, fun h => ⟨h.starts, h.spaced⟩⟩

instance (s : String) : Decidable (Closes s) :=
  decidable_of_iff (Ends s ∧ SingleSpaced s.toList)
    ⟨fun h => ⟨h.1, h.2⟩, fun h => ⟨h.ends, h.spaced⟩⟩

section Neat

variable {a b s : String}

theorem Starts.head_ne (h : Starts s) : s.toList.head? ≠ some ' ' := by
  obtain ⟨c, cs, hs, hc⟩ := h
  rw [hs, List.head?_cons]
  rintro ⟨⟩
  cases hc

theorem Ends.last_ne (h : Ends s) : s.toList.getLast? ≠ some ' ' := by
  obtain ⟨c, cs, hs, hc⟩ := h
  rw [hs, List.getLast?_concat]
  rintro ⟨⟩
  cases hc

namespace Neat

theorem of_ends (hs : Starts s) (he : Ends s) (hspaced : SingleSpaced s.toList) : Neat s :=
  ⟨⟨hs.inked.ne_empty, strip_of_ends hs he⟩, hspaced⟩

theorem starts (h : Neat s) : Starts s := h.toSolid.starts

theorem ends (h : Neat s) : Ends s := h.toSolid.ends

instance : Decidable (Neat s) :=
  decidable_of_iff (Starts s ∧ Ends s ∧ SingleSpaced s.toList)
    ⟨fun h => .of_ends h.1 h.2.1 h.2.2, fun h => ⟨h.starts, h.ends, h.spaced⟩⟩

theorem before (ha : Neat a) (hs : Opens s) : Neat (s ++ a) := by
  refine .of_ends (hs.starts.append a) (ha.ends.append s) ?_
  rw [String.toList_append]
  exact hs.spaced.append ha.spaced (.inr ha.starts.head_ne)

theorem after (ha : Neat a) (hs : Closes s) : Neat (a ++ s) := by
  refine .of_ends (ha.starts.append s) (hs.ends.append a) ?_
  rw [String.toList_append]
  exact ha.spaced.append hs.spaced (.inl ha.ends.last_ne)

theorem between (ha : Neat a) (hb : Neat b) (hspaced : SingleSpaced s.toList) :
    Neat (a ++ s ++ b) := by
  refine .of_ends ((ha.starts.append s).append b) (hb.ends.append _) ?_
  rw [String.toList_append, String.toList_append]
  exact (ha.spaced.append hspaced (.inl ha.ends.last_ne)).append hb.spaced (.inr hb.starts.head_ne)

theorem enclosed {u : String} (ha : Neat a) (hs : Opens s) (hu : Closes u) : Neat (s ++ a ++ u) :=
  (ha.before hs).after hu

theorem enclosed_pair {u v : String} (ha : Neat a) (hb : Neat b) (hs : Opens s)
    (hspaced : SingleSpaced u.toList) (hv : Closes v) : Neat (s ++ a ++ u ++ b ++ v) :=
  ((ha.before hs).between hb hspaced).after hv

end Neat

end Neat

/-- Characters are kept one by one, or some of them are spelled as a neat text. -/
inductive Respelled : List Char → List Char → Prop
  | nil : Respelled [] []
  | keep (c : Char) {cs ds : List Char} (h : Respelled cs ds) : Respelled (c :: cs) (c :: ds)
  | spell {word : List Char} {s : String} (hword : word ≠ []) (hs : Neat s) {cs ds : List Char}
    (h : Respelled cs ds) : Respelled (word ++ cs) (s.toList ++ ds)

namespace Respelled

variable {cs ds : List Char}

theorem eq_nil (h : Respelled [] ds) : ds = [] := by
  generalize hcs : ([] : List Char) = cs at h
  cases h with
  | nil => rfl
  | keep => cases hcs
  | spell hword => exact absurd (List.append_eq_nil_iff.mp hcs.symm).1 hword

theorem spaced (h : Respelled cs ds) (hcs : SingleSpaced cs) :
    SingleSpaced ds ∧ (ds.head? = some ' ' → cs.head? = some ' ') := by
  induction h with
  | nil => exact ⟨singleSpaced_nil, id⟩
  | keep c _ ih =>
    rw [singleSpaced_cons] at hcs
    obtain ⟨hds, hhead⟩ := ih hcs.2
    exact ⟨singleSpaced_cons.mpr ⟨fun hc => mt hhead (hcs.1 hc), hds⟩, id⟩
  | @spell word s _ hs cs ds _ ih =>
    obtain ⟨hds, -⟩ := ih (hcs.of_infix (List.suffix_append word cs).isInfix)
    refine ⟨hs.spaced.append hds (.inl hs.ends.last_ne), fun hhead => ?_⟩
    obtain ⟨c, rest, htext, hc⟩ := hs.starts
    rw [htext, List.cons_append, List.head?_cons] at hhead
    cases hhead
    cases hc

theorem starts (h : Respelled cs ds) (hcs : Starts (String.ofList cs)) :
    Starts (String.ofList ds) := by
  cases h with
  | nil => exact hcs
  | @keep c cs ds h =>
    obtain ⟨a, rest, hrest, ha⟩ := hcs
    rw [String.toList_ofList] at hrest
    exact ⟨c, ds, String.toList_ofList, (List.cons.inj hrest).1 ▸ ha⟩
  | @spell _ s _ hs _ ds _ =>
    rw [String.ofList_append, String.ofList_toList]
    exact hs.starts.append _

/-- Behind the last spelled word there is something, or nothing on either side. -/
theorem ends_append {front back : List Char} (h : Respelled cs ds)
    (ih : Ends (String.ofList cs) → Ends (String.ofList ds))
    (hback : cs = [] → Ends (String.ofList back))
    (hcs : Ends (String.ofList (front ++ cs))) : Ends (String.ofList (back ++ ds)) := by
  by_cases hnil : cs = []
  · subst hnil
    rw [h.eq_nil, List.append_nil]
    exact hback rfl
  · rw [String.ofList_append]
    refine (ih ?_).append _
    obtain ⟨a, rest, hrest, ha⟩ := hcs
    obtain ⟨init, last, rfl⟩ := (List.eq_nil_or_concat' cs).resolve_left hnil
    rw [String.toList_ofList, ← List.append_assoc] at hrest
    obtain ⟨-, hlast⟩ := List.append_inj' hrest rfl
    exact ⟨last, init, String.toList_ofList, (List.cons.inj hlast).1 ▸ ha⟩

theorem ends (h : Respelled cs ds) (hcs : Ends (String.ofList cs)) : Ends (String.ofList ds) := by
  induction h with
  | nil => exact hcs
  | @keep c cs ds h ih =>
    have hfront : Ends (String.ofList ([c] ++ cs)) := hcs
    show Ends (String.ofList ([c] ++ ds))
    exact ends_append h ih (fun hnil => by rwa [hnil] at hcs) hfront
  | @spell word s _ hs _ _ h ih =>
    exact ends_append h ih (fun _ => by simpa using hs.ends) hcs

/-- A neat text is still neat once parts of it are spelled in other neat texts. -/
theorem neat {s : String} (h : Respelled s.toList ds) (hs : Neat s) : Neat (String.ofList ds) := by
  refine .of_ends (h.starts ?_) (h.ends ?_) ?_
  · simpa using hs.starts
  · simpa using hs.ends
  · simpa using (h.spaced hs.spaced).1

end Respelled

/-- What a character is written as: itself, or a neat text. -/
def Spells (c : Char) (out : List Char) : Prop := out = [c] ∨ Neat (String.ofList out)

theorem Respelled.cons {c : Char} {out cs ds : List Char} (h : Spells c out)
    (hrest : Respelled cs ds) : Respelled (c :: cs) (out ++ ds) := by
  rcases h with rfl | hout
  · exact .keep c hrest
  · simpa using Respelled.spell (List.cons_ne_nil c []) hout hrest

theorem respelled_flatMap {f : Char → List Char} {cs : List Char} (h : ∀ c ∈ cs, Spells c (f c)) :
    Respelled cs (cs.flatMap f) := by
  induction cs with
  | nil => exact .nil
  | cons c cs ih =>
    rw [List.flatMap_cons]
    exact .cons (h c List.mem_cons_self) (ih fun d hd => h d (List.mem_cons_of_mem _ hd))

theorem neat_of_not_blank {cs : List Char} (hne : cs ≠ []) (h : ∀ c ∈ cs, isBlank c = false) :
    Neat (String.ofList cs) := by
  refine .of_ends ?_ ?_ ?_
  · obtain ⟨a, rest, rfl⟩ := List.exists_cons_of_ne_nil hne
    exact ⟨a, rest, String.toList_ofList, h a List.mem_cons_self⟩
  · obtain ⟨init, a, rfl⟩ := (List.eq_nil_or_concat' cs).resolve_left hne
    exact ⟨a, init, String.toList_ofList, h a (by simp)⟩
  · rw [String.toList_ofList]
    exact singleSpaced_of_notMem fun hspace => by cases h ' ' hspace

/-- Code points of characters that are not blank. -/
def inkedCode (n : Nat) : Bool :=
  ((0x1C, 0x1F) :: whiteSpace).all fun r => n < r.1 || r.2 < n

theorem isBlank_of_inkedCode {c : Char} (h : inkedCode c.toNat) : isBlank c = false := by
  rw [Bool.eq_false_iff, ne_eq, isBlank_iff]
  rintro ⟨r, hr, hc⟩
  have hrange := List.all_eq_true.mp h r hr
  simp only [Bool.or_eq_true, decide_eq_true_eq] at hrange
  omega

theorem isBlank_ofNat {n : Nat} (h : inkedCode n) : isBlank (Char.ofNat n) = false := by
  apply isBlank_of_inkedCode
  rcases toNat_ofNat n with hn | hn
  · rwa [hn]
  · rw [hn]
    decide

theorem spells_of_inkedCode (c : Char) {codes : List Nat} (hne : codes ≠ [])
    (h : ∀ n ∈ codes, inkedCode n) : Spells c (codes.map Char.ofNat) := by
  refine .inr (neat_of_not_blank (by simpa using hne) ?_)
  rw [List.forall_mem_map]
  exact fun n hn => isBlank_ofNat (h n hn)

/-- No image of a run of case mappings is blank. -/
def Text.Run.isInked (r : Run) : Bool :=
  ((0x1C, 0x1F) :: whiteSpace).all fun b => r.target + (r.last - r.first) < b.1 || b.2 < r.target

theorem spells_runs {runs : List Run} (c : Char) (hruns : runs.all Run.isInked) :
    Spells c [(runs.findSome? (·.image? c)).getD c] := by
  cases hfound : runs.findSome? (·.image? c) with
  | none => exact .inl rfl
  | some y =>
    obtain ⟨r, hr, hy⟩ := List.exists_of_findSome?_eq_some hfound
    simp only [Run.image?, Option.ite_none_right_eq_some, Option.some.injEq] at hy
    obtain ⟨⟨hfirst, hlast, -⟩, rfl⟩ := hy
    have hcode : inkedCode (r.target + (c.toNat - r.first)) := by
      rw [inkedCode, List.all_eq_true]
      intro b hb
      have hrun := List.all_eq_true.mp (List.all_eq_true.mp hruns r hr) b hb
      simp only [Bool.or_eq_true, decide_eq_true_eq] at hrun ⊢
      omega
    show Spells c ([r.target + (c.toNat - r.first)].map Char.ofNat)
    exact spells_of_inkedCode c (List.cons_ne_nil _ _) (List.forall_mem_singleton.mpr hcode)

theorem spells_upperChar (c : Char) : Spells c (upperChar c) := by
  have hexpansions : upperExpansions.all fun e => !e.2.isEmpty && e.2.all inkedCode := by
    decide +kernel
  unfold upperChar
  split
  · next codes hcodes =>
    obtain ⟨front, back, hsplit, -⟩ := List.lookup_eq_some_iff.mp hcodes
    have hmem : (c.toNat, codes) ∈ upperExpansions := by
      rw [hsplit]
      exact List.mem_append_right front List.mem_cons_self
    have hall := List.all_eq_true.mp hexpansions _ hmem
    simp only [Bool.and_eq_true, Bool.not_eq_true', List.isEmpty_eq_false_iff,
      List.all_eq_true] at hall
    exact spells_of_inkedCode c hall.1 hall.2
  · exact spells_runs c (by decide +kernel)

theorem spells_lowerChar (c : Char) : Spells c (lowerChar c) := by
  unfold lowerChar
  split
  · refine .inr (neat_of_not_blank (List.cons_ne_nil _ _) ?_)
    exact List.forall_mem_cons.mpr ⟨by decide, List.forall_mem_singleton.mpr (by decide)⟩
  · exact spells_runs c (by decide +kernel)

theorem respelled_upper (s : String) : Respelled s.toList (upper s).toList := by
  rw [upper, String.toList_ofList]
  exact respelled_flatMap fun c _ => spells_upperChar c

theorem respelled_lower (s : String) : Respelled s.toList (lower s).toList := by
  rw [lower, String.toList_ofList]
  suffices ∀ (afterCased : Bool) (cs : List Char), Respelled cs (lowerFrom afterCased cs) from
    this false s.toList
  intro afterCased cs
  induction cs generalizing afterCased with
  | nil => exact .nil
  | cons c cs ih =>
    rw [lowerFrom]
    refine .cons ?_ (ih _)
    split
    · refine .inr (neat_of_not_blank (List.cons_ne_nil _ _) ?_)
      rw [List.forall_mem_singleton]
      split <;> decide
    · exact spells_lowerChar c

theorem Neat.upper {s : String} (h : Neat s) : Neat (upper s) := by
  simpa using (respelled_upper s).neat h

theorem Neat.lower {s : String} (h : Neat s) : Neat (lower s) := by
  simpa using (respelled_lower s).neat h

end PolySql
