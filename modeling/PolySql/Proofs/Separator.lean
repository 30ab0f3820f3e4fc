import Mathlib.Data.List.TakeWhile
import PolySql.Proofs.Trim
import PolySql.Text.Split

/-!
Separators of names. Main statements: a text is cut exactly if it holds a separator, no piece holds
one, dots cut a text apart from what is in front of them, and blanks around a text change its pieces
by no more than blanks around them.
-/

namespace PolySql

open Text

/-- The word `as` in any case, a long s counting as one, between blanks. -/
def IsSeparator (cs : List Char) : Prop :=
  ∃ before a s after, cs = before ++ a :: s :: after ∧ before ≠ [] ∧ after ≠ [] ∧
    (∀ c ∈ before, isBlank c) ∧ (∀ c ∈ after, isBlank c) ∧
    (a = 'a' ∨ a = 'A') ∧ (s = 's' ∨ s = 'S' ∨ s = 'ſ')

def HasSeparator (cs : List Char) : Prop :=
  ∃ front sep back, cs = front ++ (sep ++ back) ∧ IsSeparator sep

/-- The text is cut at its separators, from the left, each one taken as far as it goes. -/
inductive Cut : List Char → List (List Char) → Prop
  | whole {cs : List Char} (h : ¬ HasSeparator cs) : Cut cs [cs]
  | first {front sep back : List Char} {ws : List (List Char)} (hsep : IsSeparator sep)
    (hfirst : ∀ front' sep' back', front ++ (sep ++ back) = front' ++ (sep' ++ back') →
      IsSeparator sep' → front.length ≤ front'.length)
    (hback : ∀ c ∈ back.head?, isBlank c = false) (h : Cut back ws) :
    Cut (front ++ (sep ++ back)) (front :: ws)

section Width

variable {cs ds : List Char}

theorem takeWhile_append_of_head {p : Char → Bool} {xs ys : List Char} {a : Char}
    (hxs : ∀ c ∈ xs, p c) (ha : p a = false) : (xs ++ a :: ys).takeWhile p = xs := by
  rw [List.takeWhile_append_of_pos hxs, List.takeWhile_cons, ha]
  simp

theorem drop_takeWhile_length (p : Char → Bool) (xs : List Char) :
    xs.drop (xs.takeWhile p).length = xs.dropWhile p := by
  have hsplit := List.takeWhile_append_dropWhile (p := p) (l := xs)
  calc xs.drop (xs.takeWhile p).length
      = (xs.takeWhile p ++ xs.dropWhile p).drop (xs.takeWhile p).length := by rw [hsplit]
    _ = xs.dropWhile p := List.drop_left

theorem isBlank_first {a : Char} (h : a = 'a' ∨ a = 'A') : isBlank a = false := by
  rcases h with rfl | rfl <;> decide

/-- A text that is a separator in front has a width, up to the first character behind it that is
not blank. -/
theorem aliasWidth_of_separator {before after : List Char} {a s : Char} (hbefore : before ≠ [])
    (hafter : after ≠ []) (hblank : ∀ c ∈ before, isBlank c) (hblank' : ∀ c ∈ after, isBlank c)
    (ha : a = 'a' ∨ a = 'A') (hs : s = 's' ∨ s = 'S' ∨ s = 'ſ') (back : List Char) :
    aliasWidth (before ++ a :: s :: (after ++ back)) =
      before.length + 2 + (after.length + (back.takeWhile isBlank).length) := by
  have hbefore := List.length_pos_of_ne_nil hbefore
  have hafter := List.length_pos_of_ne_nil hafter
  rw [aliasWidth, takeWhile_append_of_head hblank (isBlank_first ha), List.drop_left]
  simp only [List.takeWhile_append_of_pos hblank', List.length_append]
  exact if_pos ⟨hbefore, by omega, ha, hs⟩

theorem aliasWidth_ne_zero_of_separator {sep back : List Char} (h : IsSeparator sep) :
    aliasWidth (sep ++ back) ≠ 0 := by
  obtain ⟨before, a, s, after, rfl, hbefore, hafter, hblank, hblank', ha, hs⟩ := h
  have hwidth := aliasWidth_of_separator hbefore hafter hblank hblank' ha hs back
  simp only [List.append_assoc, List.cons_append]
  omega

/-- Only a separator has a width. -/
theorem exists_separator_of_aliasWidth (h : aliasWidth cs ≠ 0) :
    ∃ sep back, cs = sep ++ back ∧ IsSeparator sep ∧ aliasWidth cs = sep.length ∧
      ∀ c ∈ back.head?, isBlank c = false := by
  have hsplit := List.takeWhile_append_dropWhile (p := isBlank) (l := cs)
  rw [aliasWidth, drop_takeWhile_length] at h ⊢
  cases hword : cs.dropWhile isBlank with
  | nil => simp [hword] at h
  | cons a rest =>
    cases rest with
    | nil => simp [hword] at h
    | cons s rest =>
      simp only [hword, ne_eq, ite_eq_right_iff, not_forall] at h ⊢
      obtain ⟨hsep, -⟩ := h
      obtain ⟨hbefore, hafter, ha, hs⟩ := hsep
      have hrest := List.takeWhile_append_dropWhile (p := isBlank) (l := rest)
      refine ⟨cs.takeWhile isBlank ++ a :: s :: rest.takeWhile isBlank, rest.dropWhile isBlank, ?_,
        ⟨_, a, s, _, rfl, List.ne_nil_of_length_pos hbefore, List.ne_nil_of_length_pos hafter,
          fun c hc => List.mem_takeWhile_imp hc, fun c hc => List.mem_takeWhile_imp hc, ha, hs⟩,
        ?_, ?_⟩
      · rw [List.append_assoc, List.cons_append, List.cons_append, hrest, ← hword, hsplit]
      · rw [if_pos ⟨hbefore, hafter, ha, hs⟩, List.length_append, List.length_cons,
          List.length_cons]
        omega
      · intro c hc
        obtain ⟨tail, htail⟩ := List.head?_eq_some_iff.mp hc
        exact not_blank_of_dropWhile htail

theorem aliasWidth_append_ne_zero (h : aliasWidth cs ≠ 0) : aliasWidth (cs ++ ds) ≠ 0 := by
  obtain ⟨sep, back, rfl, hsep, -⟩ := exists_separator_of_aliasWidth h
  rw [List.append_assoc]
  exact aliasWidth_ne_zero_of_separator hsep

theorem hasSeparator_iff : HasSeparator cs ↔ ∃ ds, ds <:+ cs ∧ aliasWidth ds ≠ 0 := by
  constructor
  · rintro ⟨front, sep, back, rfl, hsep⟩
    exact ⟨_, List.suffix_append front _, aliasWidth_ne_zero_of_separator hsep⟩
  · rintro ⟨ds, ⟨front, rfl⟩, hds⟩
    obtain ⟨sep, back, rfl, hsep, -⟩ := exists_separator_of_aliasWidth hds
    exact ⟨front, sep, back, rfl, hsep⟩

end Width

section Pieces

variable {width : List Char → Nat} {cs : List Char}

theorem pieces_eq_drop (width : List Char → Nat) (skip : Nat) (cs : List Char) :
    pieces width skip cs = pieces width 0 (cs.drop skip) := by
  induction cs generalizing skip with
  | nil => simp [pieces]
  | cons c cs ih =>
    cases skip with
    | zero => rfl
    | succ k => rw [pieces, ih, List.drop_succ_cons]

theorem pieces_cons_of_zero {c : Char} (h : width (c :: cs) = 0) :
    pieces width 0 (c :: cs) = consFirst c (pieces width 0 cs) := by
  simp only [pieces, h]

theorem pieces_cons_of_pos {c : Char} (h : width (c :: cs) ≠ 0) :
    pieces width 0 (c :: cs) = [] :: pieces width 0 ((c :: cs).drop (width (c :: cs))) := by
  obtain ⟨k, hk⟩ := Nat.exists_eq_succ_of_ne_zero h
  rw [hk, List.drop_succ_cons, ← pieces_eq_drop]
  simp only [pieces, hk]

/-- Induction along the pieces of a text. -/
theorem pieces_induction {P : List Char → Prop} (width : List Char → Nat) (nil : P [])
    (char : ∀ c cs, width (c :: cs) = 0 → P cs → P (c :: cs))
    (separator : ∀ c cs, width (c :: cs) ≠ 0 → P ((c :: cs).drop (width (c :: cs))) → P (c :: cs))
    (cs : List Char) : P cs := by
  have hlength : ∀ n (cs : List Char), cs.length ≤ n → P cs := by
    intro n
    induction n with
    | zero =>
      intro cs h
      rwa [List.length_eq_zero_iff.mp (Nat.le_zero.mp h)]
    | succ n ih =>
      intro cs h
      cases cs with
      | nil => exact nil
      | cons c cs =>
        rw [List.length_cons] at h
        by_cases hwidth : width (c :: cs) = 0
        · exact char c cs hwidth (ih cs (by omega))
        · refine separator c cs hwidth (ih _ ?_)
          rw [List.length_drop, List.length_cons]
          omega
  exact hlength cs.length cs (Nat.le_refl _)

theorem pieces_of_no_width (h : ∀ ds, ds <:+ cs → width ds = 0) : pieces width 0 cs = [cs] := by
  induction cs with
  | nil => rfl
  | cons c cs ih =>
    rw [pieces_cons_of_zero (h _ (List.suffix_refl _)),
      ih fun ds hds => h ds (hds.trans (List.suffix_cons c cs)), consFirst]

theorem length_pieces_of_width (hnil : width [] = 0) (h : ∃ ds, ds <:+ cs ∧ width ds ≠ 0) :
    1 < (pieces width 0 cs).length := by
  have hsome : ∀ ds, 0 < (pieces width 0 ds).length := fun ds =>
    List.length_pos_of_ne_nil (pieces_ne_nil width 0 ds)
  induction cs with
  | nil =>
    obtain ⟨ds, hds, hwidth⟩ := h
    rw [List.suffix_nil.mp hds] at hwidth
    exact absurd hnil hwidth
  | cons c cs ih =>
    by_cases hfirst : width (c :: cs) = 0
    · obtain ⟨ds, hds, hwidth⟩ := h
      have hlater : ds <:+ cs := by
        rcases List.suffix_cons_iff.mp hds with rfl | hds
        · exact absurd hfirst hwidth
        · exact hds
      have hrest := ih ⟨ds, hlater, hwidth⟩
      rw [pieces_cons_of_zero hfirst]
      cases hpieces : pieces width 0 cs with
      | nil => exact absurd hpieces (pieces_ne_nil _ _ _)
      | cons w ws => rwa [hpieces] at hrest
    · rw [pieces_cons_of_pos hfirst, List.length_cons]
      have := hsome ((c :: cs).drop (width (c :: cs)))
      omega

/-- The first piece is what stands in front of the first separator. -/
theorem prefix_of_pieces {w : List Char} {ws : List (List Char)} (h : pieces width 0 cs = w :: ws) :
    w <+: cs := by
  induction cs generalizing w ws with
  | nil =>
    cases h
    exact List.prefix_refl []
  | cons c cs ih =>
    by_cases hfirst : width (c :: cs) = 0
    · rw [pieces_cons_of_zero hfirst] at h
      cases hpieces : pieces width 0 cs with
      | nil => exact absurd hpieces (pieces_ne_nil _ _ _)
      | cons v vs =>
        rw [hpieces, consFirst] at h
        obtain ⟨rfl, -⟩ := List.cons.inj h
        exact List.prefix_cons_inj c |>.mpr (ih hpieces)
    · rw [pieces_cons_of_pos hfirst] at h
      obtain ⟨rfl, -⟩ := List.cons.inj h
      exact List.nil_prefix

/-- No separator starts inside a piece, if one that starts a text still does with more behind. -/
theorem width_of_mem_pieces (hmono : ∀ ds es, width ds ≠ 0 → width (ds ++ es) ≠ 0)
    {w ds : List Char} (hw : w ∈ pieces width 0 cs) (hds : ds <:+ w) (hne : ds ≠ []) :
    width ds = 0 := by
  induction cs using pieces_induction width generalizing w with
  | nil =>
    rw [List.mem_singleton.mp hw, List.suffix_nil] at hds
    exact absurd hds hne
  | char c cs hzero ih =>
    rw [pieces_cons_of_zero hzero] at hw
    cases hpieces : pieces width 0 cs with
    | nil => exact absurd hpieces (pieces_ne_nil _ _ _)
    | cons v vs =>
      rw [hpieces] at ih
      rw [hpieces, consFirst] at hw
      rcases List.mem_cons.mp hw with rfl | hw
      · rcases List.suffix_cons_iff.mp hds with rfl | hds
        · -- The whole piece stands in front of the text, where no separator starts.
          obtain ⟨es, hes⟩ := prefix_of_pieces hpieces
          by_contra hwidth
          have hmore := hmono _ es hwidth
          rw [List.cons_append, hes] at hmore
          exact hmore hzero
        · exact ih List.mem_cons_self hds
      · exact ih (List.mem_cons_of_mem _ hw) hds
  | separator c cs hpos ih =>
    rw [pieces_cons_of_pos hpos] at hw
    rcases List.mem_cons.mp hw with rfl | hw
    · exact absurd (List.suffix_nil.mp hds) hne
    · exact ih hw hds

theorem cut_pieces (cs : List Char) : Cut cs (pieces aliasWidth 0 cs) := by
  induction cs using pieces_induction aliasWidth with
  | nil =>
    refine .whole ?_
    rw [hasSeparator_iff]
    rintro ⟨ds, hds, hwidth⟩
    rw [List.suffix_nil.mp hds] at hwidth
    exact hwidth rfl
  | char c cs hzero ih =>
    rw [pieces_cons_of_zero hzero]
    generalize pieces aliasWidth 0 cs = ws at ih
    cases ih with
    | whole h =>
      refine .whole fun hsome => ?_
      obtain ⟨ds, hds, hwidth⟩ := hasSeparator_iff.mp hsome
      rcases List.suffix_cons_iff.mp hds with rfl | hds
      · exact hwidth hzero
      · exact h (hasSeparator_iff.mpr ⟨ds, hds, hwidth⟩)
    | @first front sep back ws hsep hfirst hback h =>
      refine @Cut.first (c :: front) sep back ws hsep (fun front' sep' back' hsplit hsep' => ?_)
        hback h
      -- Nothing starts at the new character, and behind it as little as before.
      cases front' with
      | nil =>
        rw [List.cons_append, List.nil_append] at hsplit
        rw [hsplit] at hzero
        exact absurd hzero (aliasWidth_ne_zero_of_separator hsep')
      | cons c' front' =>
        obtain ⟨-, hsplit⟩ := List.cons.inj hsplit
        have := hfirst front' sep' back' hsplit hsep'
        simpa using this
  | separator c cs hpos ih =>
    rw [pieces_cons_of_pos hpos]
    obtain ⟨sep, back, hcs, hsep, hlength, hback⟩ := exists_separator_of_aliasWidth hpos
    rw [hlength, hcs, List.drop_left] at ih ⊢
    exact @Cut.first [] sep back _ hsep (fun _ _ _ _ _ => Nat.zero_le _) hback ih

/-- The last piece is what stands behind the last separator, and it does not start with a blank. -/
theorem exists_last_piece (cs : List Char) :
    ∃ init last, pieces aliasWidth 0 cs = init ++ [last] ∧ last <:+ cs ∧ (init = [] → last = cs) ∧
      (init ≠ [] → ∀ c ∈ last.head?, isBlank c = false) := by
  induction cs using pieces_induction aliasWidth with
  | nil => exact ⟨[], [], rfl, List.suffix_refl [], fun _ => rfl, fun h => absurd rfl h⟩
  | char c cs hzero ih =>
    obtain ⟨init, last, hpieces, hsuffix, hwhole, hhead⟩ := ih
    rw [pieces_cons_of_zero hzero, hpieces]
    cases init with
    | nil =>
      obtain rfl := hwhole rfl
      exact ⟨[], c :: last, rfl, List.suffix_refl _, fun _ => rfl, fun h => absurd rfl h⟩
    | cons w ws =>
      exact ⟨(c :: w) :: ws, last, rfl, hsuffix.trans (List.suffix_cons c cs),
        fun h => absurd h (List.cons_ne_nil _ _), fun _ => hhead (List.cons_ne_nil _ _)⟩
  | separator c cs hpos ih =>
    obtain ⟨init, last, hpieces, hsuffix, hwhole, hhead⟩ := ih
    rw [pieces_cons_of_pos hpos, hpieces]
    refine ⟨[] :: init, last, rfl, hsuffix.trans (List.drop_suffix _ _),
      fun h => absurd h (List.cons_ne_nil _ _), fun _ => ?_⟩
    by_cases hinit : init = []
    · rw [hwhole hinit]
      obtain ⟨sep, back, hcs, -, hlength, hback⟩ := exists_separator_of_aliasWidth hpos
      rwa [hlength, hcs, List.drop_left]
    · exact hhead hinit

end Pieces

section Alias

variable {s : String}

/-- A text is cut in two or more exactly if it holds a separator. -/
theorem one_lt_length_splitAlias_iff : 1 < (splitAlias s).length ↔ HasSeparator s.toList := by
  rw [splitAlias, List.length_map, hasSeparator_iff]
  constructor
  · intro h
    by_contra hnone
    have hzero : ∀ ds, ds <:+ s.toList → aliasWidth ds = 0 := fun ds hds =>
      Nat.eq_zero_of_not_pos fun hpos => hnone ⟨ds, hds, hpos.ne'⟩
    rw [pieces_of_no_width hzero] at h
    exact Nat.lt_irrefl 1 h
  · exact length_pieces_of_width rfl

theorem cut_splitAlias (s : String) : Cut s.toList ((splitAlias s).map String.toList) := by
  have hpieces : (splitAlias s).map String.toList = pieces aliasWidth 0 s.toList := by
    simp [splitAlias]
  rw [hpieces]
  exact cut_pieces s.toList

theorem splitAlias_of_no_separator (h : ¬ HasSeparator s.toList) : splitAlias s = [s] := by
  have hzero : ∀ ds, ds <:+ s.toList → aliasWidth ds = 0 := fun ds hds =>
    Nat.eq_zero_of_not_pos fun hpos => h (hasSeparator_iff.mpr ⟨ds, hds, hpos.ne'⟩)
  rw [splitAlias, pieces_of_no_width hzero, List.map_singleton, String.ofList_toList]

/-- Either there is nothing to cut, or there is an alias. -/
theorem splitAlias_cases (s : String) :
    ¬ HasSeparator s.toList ∧ splitAlias s = [s] ∨
      HasSeparator s.toList ∧ ∃ target name rest, splitAlias s = target :: name :: rest := by
  by_cases h : HasSeparator s.toList
  · have hlength := one_lt_length_splitAlias_iff.mpr h
    match hsplit : splitAlias s with
    | [] | [_] => simp [hsplit] at hlength
    | target :: name :: rest => exact .inr ⟨h, target, name, rest, rfl⟩
  · exact .inl ⟨h, splitAlias_of_no_separator h⟩

theorem no_separator_of_mem_splitAlias {w : String} (h : w ∈ splitAlias s) :
    ¬ HasSeparator w.toList := by
  obtain ⟨cs, hcs, rfl⟩ := List.mem_map.mp h
  rw [String.toList_ofList, hasSeparator_iff]
  rintro ⟨ds, hds, hwidth⟩
  refine hwidth (width_of_mem_pieces (fun _ _ => aliasWidth_append_ne_zero) hcs hds ?_)
  rintro rfl
  exact hwidth rfl

/-- What is left of a text without separators has none. -/
theorem HasSeparator.mono {cs ds : List Char} (h : HasSeparator cs) (hinside : cs <:+: ds) :
    HasSeparator ds := by
  obtain ⟨front, sep, back, rfl, hsep⟩ := h
  obtain ⟨pre, post, rfl⟩ := hinside
  exact ⟨pre ++ front, sep, back ++ post, by simp only [List.append_assoc], hsep⟩

theorem trimBoth_inside (p : Char → Bool) (cs : List Char) : trimBoth p cs <:+: cs := by
  have hfront := List.dropWhile_suffix p (l := cs)
  have hback := List.reverse_prefix.mpr (List.dropWhile_suffix p (l := (cs.dropWhile p).reverse))
  rw [List.reverse_reverse] at hback
  exact hback.isInfix.trans hfront.isInfix

theorem IsSeparator.dot_notMem {sep : List Char} (h : IsSeparator sep) : '.' ∉ sep := by
  obtain ⟨before, a, s, after, rfl, -, -, hbefore, hafter, ha, hs⟩ := h
  have hdot : isBlank '.' = false := by decide
  intro hmem
  rcases List.mem_append.mp hmem with hmem | hmem
  · exact absurd (hbefore _ hmem) (by rw [hdot]; simp)
  · rcases List.mem_cons.mp hmem with rfl | hmem
    · revert ha
      decide
    · rcases List.mem_cons.mp hmem with rfl | hmem
      · revert hs
        decide
      · exact absurd (hafter _ hmem) (by rw [hdot]; simp)

/-- No separator reaches over a dot. -/
theorem hasSeparator_dot {cs ds : List Char} :
    HasSeparator (cs ++ '.' :: ds) ↔ HasSeparator cs ∨ HasSeparator ds := by
  constructor
  · rintro ⟨front, sep, back, hsplit, hsep⟩
    rcases List.append_eq_append_iff.mp hsplit with ⟨xs, rfl, hback⟩ | ⟨xs, rfl, hback⟩
    · cases xs with
      | nil =>
        cases hsep' : sep with
        | nil =>
          obtain ⟨before, a, s, after, hnil, -⟩ := hsep
          simp [hsep'] at hnil
        | cons x sep' =>
          rw [hsep', List.nil_append, List.cons_append] at hback
          obtain ⟨rfl, -⟩ := List.cons.inj hback
          exact absurd (hsep' ▸ List.mem_cons_self) hsep.dot_notMem
      | cons x xs =>
        obtain ⟨rfl, rfl⟩ := List.cons.inj hback
        exact .inr ⟨xs, sep, back, rfl, hsep⟩
    · rcases List.append_eq_append_iff.mp hback with ⟨ys, rfl, hys⟩ | ⟨ys, rfl, hys⟩
      · exact .inl ⟨front, sep, ys, rfl, hsep⟩
      · cases ys with
        | nil => exact .inl ⟨front, xs, [], by simp, by simpa using hsep⟩
        | cons y ys =>
          obtain ⟨rfl, -⟩ := List.cons.inj hys
          exact absurd (List.mem_append_right xs List.mem_cons_self) hsep.dot_notMem
  · rintro (h | h)
    · exact h.mono (List.prefix_append _ _).isInfix
    · exact h.mono ((List.suffix_cons _ _).trans (List.suffix_append _ _)).isInfix

/-- Only blanks are trimmed off the last piece of a text, none if the text is trimmed. -/
theorem strip_getLast_splitAlias (h : strip s = s) (hne : splitAlias s ≠ []) :
    strip ((splitAlias s).getLast hne) = (splitAlias s).getLast hne := by
  obtain ⟨init, last, hpieces, ⟨front, hfront⟩, hwhole, hhead⟩ := exists_last_piece s.toList
  have hlast : (splitAlias s).getLast hne = String.ofList last := by
    simp only [splitAlias, hpieces, List.map_append, List.map_singleton,
      List.getLast_append_singleton]
  rw [hlast]
  by_cases hinit : init = []
  · rw [hwhole hinit, String.ofList_toList, h]
  · cases last with
    | nil => rfl
    | cons c cs =>
      have hsolid : Solid s := by
        refine ⟨?_, h⟩
        rintro rfl
        simp at hfront
      obtain ⟨a, ds, hds, ha⟩ := hsolid.ends
      apply strip_of_ends
      · exact ⟨c, cs, String.toList_ofList, hhead hinit c rfl⟩
      · refine ⟨a, (c :: cs).dropLast, ?_, ha⟩
        rw [String.toList_ofList]
        have hends := congrArg List.getLast? (hfront.trans hds)
        rw [List.getLast?_append_of_ne_nil _ (List.cons_ne_nil c cs), List.getLast?_concat] at hends
        exact (List.dropLast_append_getLast? a hends).symm

end Alias

section Dots

variable {cs ds : List Char}

theorem dotWidth_dot (cs : List Char) : dotWidth ('.' :: cs) = 1 := rfl

theorem dotWidth_of_ne {c : Char} (h : c ≠ '.') (cs : List Char) : dotWidth (c :: cs) = 0 := by
  unfold dotWidth
  split <;> simp_all

theorem pieces_dot_cons (cs : List Char) :
    pieces dotWidth 0 ('.' :: cs) = [] :: pieces dotWidth 0 cs := by
  rw [pieces_cons_of_pos (by rw [dotWidth_dot]; decide), dotWidth_dot, List.drop_succ_cons,
    List.drop_zero]

theorem pieces_dot_append (cs ds : List Char) :
    pieces dotWidth 0 (cs ++ '.' :: ds) = pieces dotWidth 0 cs ++ pieces dotWidth 0 ds := by
  induction cs with
  | nil => exact pieces_dot_cons ds
  | cons c cs ih =>
    rw [List.cons_append]
    by_cases hc : c = '.'
    · rw [hc, pieces_dot_cons, pieces_dot_cons, ih, List.cons_append]
    · rw [pieces_cons_of_zero (dotWidth_of_ne hc _), pieces_cons_of_zero (dotWidth_of_ne hc _), ih]
      cases hpieces : pieces dotWidth 0 cs with
      | nil => exact absurd hpieces (pieces_ne_nil _ _ _)
      | cons w ws => rfl

theorem splitDots_append (s t : String) :
    splitDots (s ++ "." ++ t) = splitDots s ++ splitDots t := by
  have hlist : (s ++ "." ++ t).toList = s.toList ++ '.' :: t.toList := by simp
  rw [splitDots, hlist, pieces_dot_append, List.map_append]
  rfl

theorem splitDots_of_no_dot {s : String} (h : '.' ∉ s.toList) : splitDots s = [s] := by
  have hzero : ∀ ds, ds <:+ s.toList → dotWidth ds = 0 := by
    intro ds hds
    cases ds with
    | nil => rfl
    | cons c ds =>
      refine dotWidth_of_ne ?_ ds
      rintro rfl
      exact h (hds.subset List.mem_cons_self)
  rw [splitDots, pieces_of_no_width hzero, List.map_singleton, String.ofList_toList]

theorem ne_dot_of_isBlank {c : Char} (h : isBlank c) : c ≠ '.' := by
  rintro rfl
  exact absurd h (by decide)

theorem trimBoth_cons_of_blank {c : Char} (h : isBlank c) (cs : List Char) :
    trimBoth isBlank (c :: cs) = trimBoth isBlank cs := by
  rw [trimBoth, List.dropWhile_cons_of_pos h, trimBoth]

theorem trimBoth_concat_of_blank {c : Char} (h : isBlank c) (cs : List Char) :
    trimBoth isBlank (cs ++ [c]) = trimBoth isBlank cs := by
  rw [trimBoth, trimBoth, List.dropWhile_append]
  split
  · next hempty =>
    rw [List.isEmpty_iff.mp hempty, List.dropWhile_cons_of_pos h]
    rfl
  · rw [List.reverse_append, List.reverse_singleton, List.singleton_append,
      List.dropWhile_cons_of_pos h]

/-- A character that is no dot, put behind a text, belongs to its last piece. -/
theorem exists_pieces_dot_concat {c : Char} (h : c ≠ '.') (cs : List Char) :
    ∃ init last, pieces dotWidth 0 cs = init ++ [last] ∧
      pieces dotWidth 0 (cs ++ [c]) = init ++ [last ++ [c]] := by
  induction cs with
  | nil => exact ⟨[], [], rfl, pieces_cons_of_zero (dotWidth_of_ne h [])⟩
  | cons d cs ih =>
    obtain ⟨init, last, hpieces, hmore⟩ := ih
    rw [List.cons_append]
    by_cases hd : d = '.'
    · refine ⟨[] :: init, last, ?_, ?_⟩
      · rw [hd, pieces_dot_cons, hpieces, List.cons_append]
      · rw [hd, pieces_dot_cons, hmore, List.cons_append]
    · rw [pieces_cons_of_zero (dotWidth_of_ne hd _), pieces_cons_of_zero (dotWidth_of_ne hd _),
        hpieces, hmore]
      cases init with
      | nil => exact ⟨[], d :: last, rfl, rfl⟩
      | cons w ws => exact ⟨(d :: w) :: ws, last, rfl, rfl⟩

theorem map_trimBoth_pieces_dropWhile (cs : List Char) :
    (pieces dotWidth 0 (cs.dropWhile isBlank)).map (trimBoth isBlank) =
      (pieces dotWidth 0 cs).map (trimBoth isBlank) := by
  induction cs with
  | nil => rfl
  | cons c cs ih =>
    by_cases hc : isBlank c
    · rw [List.dropWhile_cons_of_pos hc, ih,
        pieces_cons_of_zero (dotWidth_of_ne (ne_dot_of_isBlank hc) cs)]
      cases hpieces : pieces dotWidth 0 cs with
      | nil => exact absurd hpieces (pieces_ne_nil _ _ _)
      | cons w ws => rw [consFirst, List.map_cons, List.map_cons, trimBoth_cons_of_blank hc]
    · rw [List.dropWhile_cons_of_neg hc]

theorem map_trimBoth_pieces_reverse (cs : List Char) :
    (pieces dotWidth 0 (cs.dropWhile isBlank).reverse).map (trimBoth isBlank) =
      (pieces dotWidth 0 cs.reverse).map (trimBoth isBlank) := by
  induction cs with
  | nil => rfl
  | cons c cs ih =>
    by_cases hc : isBlank c
    · obtain ⟨init, last, hpieces, hmore⟩ :=
        exists_pieces_dot_concat (ne_dot_of_isBlank hc) cs.reverse
      rw [List.dropWhile_cons_of_pos hc, ih, List.reverse_cons, hpieces, hmore, List.map_append,
        List.map_append, List.map_singleton, List.map_singleton, trimBoth_concat_of_blank hc]
    · rw [List.dropWhile_cons_of_neg hc]

theorem map_strip_splitDots_strip (s : String) :
    (splitDots (strip s)).map strip = (splitDots s).map strip := by
  have hpieces : ∀ cs, ((pieces dotWidth 0 cs).map String.ofList).map strip =
      ((pieces dotWidth 0 cs).map (trimBoth isBlank)).map String.ofList := by
    intro cs
    rw [List.map_map, List.map_map]
    refine List.map_congr_left fun w _ => ?_
    show String.ofList (trimBoth isBlank (String.ofList w).toList) = _
    rw [String.toList_ofList]
    rfl
  rw [splitDots, splitDots, hpieces, hpieces, strip, String.toList_ofList, trimBoth,
    map_trimBoth_pieces_reverse, List.reverse_reverse, map_trimBoth_pieces_dropWhile]

end Dots

end PolySql
