import PolySql.Proofs.Alike.Self
import PolySql.Proofs.Alike.Statement
import PolySql.Proofs.Mark
import PolySql.Proofs.Sentence

/-!
Placeholders and bindings in step. Main statement: a compiled query has as many placeholders as
bindings, in the same order; SQL text in place of one value takes out that value and the placeholder
that belongs to it, and changes nothing else.
-/

namespace PolySql

open Text

/-- As many placeholders `c` as bindings. -/
def Fragment.Aligned (c : Char) (f : Fragment) : Prop := f.text.toList.count c = f.bindings.length

/-- Fragments that differ in at most `n` places, where the first one binds `v` and the second one
has the text `s`. Between those places both are the same and aligned. -/
inductive Swapped (c : Char) (v : Json) (s : String) : ℕ → Fragment → Fragment → Prop
  | same {n : ℕ} {f : Fragment} (h : f.Aligned c) : Swapped c v s n f f
  | swap {n : ℕ} {f f' g : Fragment} (h : Swapped c v s n f f') (hg : g.Aligned c) :
    Swapped c v s (n + 1) (f ++ ⟨String.singleton c, [v]⟩ ++ g) (f' ++ s ++ g)

namespace Fragment

variable {c : Char} {v : Json} {s : String} {f g : Fragment}

theorem Aligned.append (hf : f.Aligned c) (hg : g.Aligned c) : (f ++ g).Aligned c := by
  unfold Aligned at *
  rw [text_append, String.toList_append, List.count_append, hf, hg, bindings_append,
    List.length_append]

theorem count_dropWhile (hc : isBlank c = false) (cs : List Char) :
    (cs.dropWhile isBlank).count c = cs.count c := by
  induction cs with
  | nil => rfl
  | cons x cs ih =>
    rw [List.dropWhile_cons]
    split
    · next hx =>
      have hne : x ≠ c := fun h => by simp [h, hc] at hx
      rw [ih, List.count_cons_of_ne hne]
    · rfl

theorem Aligned.trimStart (hc : isBlank c = false) (h : f.Aligned c) :
    f.trimStart.Aligned c := by
  unfold Aligned at *
  simpa [Fragment.trimStart, count_dropWhile hc] using h

theorem Aligned.trimEnd (hc : isBlank c = false) (h : f.Aligned c) : f.trimEnd.Aligned c := by
  unfold Aligned at *
  simpa [Fragment.trimEnd, count_dropWhile hc] using h

end Fragment

namespace Swapped

variable {c : Char} {v : Json} {s : String} {m n : ℕ} {f f' g g' : Fragment}

theorem mono (h : Swapped c v s m f f') (hmn : m ≤ n) : Swapped c v s n f f' := by
  induction h generalizing n with
  | same h => exact .same h
  | swap h hg ih =>
    cases n with
    | zero => exact absurd hmn (Nat.not_succ_le_zero _)
    | succ n => exact .swap (ih (Nat.le_of_succ_le_succ hmn)) hg

theorem one : Swapped c v s 1 ⟨String.singleton c, [v]⟩ s := by
  have hempty : Fragment.Aligned c ∅ := rfl
  have h : Swapped c v s 1 (∅ ++ ⟨String.singleton c, [v]⟩ ++ ∅) (∅ ++ s ++ ∅) :=
    .swap (.same hempty) hempty
  simpa using h

/-- Text behind both fragments belongs to their last common piece. -/
theorem append_same (h : Swapped c v s n f f') (hg : g.Aligned c) :
    Swapped c v s n (f ++ g) (f' ++ g) := by
  cases h with
  | same h => exact .same (h.append hg)
  | swap h hpost =>
    rw [Fragment.append_assoc _ _ g, Fragment.append_assoc _ _ g]
    exact .swap h (hpost.append hg)

theorem append (h : Swapped c v s m f f') (h' : Swapped c v s n g g') :
    Swapped c v s (m + n) (f ++ g) (f' ++ g') := by
  induction h' with
  | same hg => exact (h.append_same hg).mono (Nat.le_add_right _ _)
  | swap h' hg ih =>
    simp only [← Fragment.append_assoc] at ih ⊢
    exact .swap ih hg

theorem trimStart (hc : Solid (String.singleton c)) (hb : isBlank c = false) (hs : Solid s)
    (h : Swapped c v s n f f') : Swapped c v s n f.trimStart f'.trimStart := by
  induction h with
  | same h => exact .same (h.trimStart hb)
  | swap h hg ih =>
    rw [hc.trimStart_append, hs.trimStart_append]
    exact .swap ih hg

theorem trimEnd (hc : Solid (String.singleton c)) (hb : isBlank c = false) (hs : Solid s)
    (h : Swapped c v s n f f') : Swapped c v s n f.trimEnd f'.trimEnd := by
  cases h with
  | same h => exact .same (h.trimEnd hb)
  | swap h hg =>
    rw [hc.trimEnd_append, hs.trimEnd_append]
    exact .swap h (hg.trimEnd hb)

/-- Where the fragments differ, neither is blank. -/
theorem blank (hs : s ≠ "") (h : Swapped c v s n f f') : f.text = "" ↔ f'.text = "" := by
  cases h with
  | same h => rfl
  | swap h hg =>
    have hleft : ∀ a b : String, a ++ String.singleton c ++ b ≠ "" := by
      intro a b hab
      simpa using congrArg String.toList hab
    have hright : ∀ a b : String, a ++ s ++ b ≠ "" := by
      intro a b hab
      apply hs
      simp_all
    exact iff_of_false (hleft _ _) (hright _ _)

end Swapped

/-- The target marks bound positions with `c`, which is in none of its own texts. -/
structure Target.Marks (t : Target) (c : Char) : Prop where
  isMark : IsMark c
  placeholder : t.dialect.placeholder = String.singleton c
  openQuote : Over (· ≠ c) t.dialect.openQuote
  closeQuote : Over (· ≠ c) t.dialect.closeQuote
  sourceKeySuffix : Over (· ≠ c) t.options.sourceKeySuffix
  targetKey : Over (· ≠ c) t.options.targetKey
  aggregateAlias : Over (· ≠ c) t.options.aggregateAlias

/-- No text has the character `c`, apart from the marks of verbatim SQL. -/
def Content.without (c : Char) : Content := ⟨(· ≠ c), fun _ => True⟩

/-- The text `s` may stand in for the value `v`, and nothing else changes. -/
def Exchange.slot (v : Json) (s : String) : Exchange := ⟨Eq, fun v' s' => v' = v ∧ s' = s⟩

theorem aligned_of_over {c : Char} {s : String} (h : Over (· ≠ c) s) : Fragment.Aligned c s := by
  show s.toList.count c = 0
  rw [List.count_eq_zero]
  exact fun hc => h c hc rfl

theorem lawful_swapped {t : Target} {c : Char} {v : Json} {s : String} (hc : t.Marks c)
    (hs : Solid s) : Lawful (.slot v s) (.without c) t (Swapped c v s) where
  alphabet := alphabet_ne hc.isMark hc.openQuote hc.closeQuote
  sourceKeySuffix := hc.sourceKeySuffix
  targetKey := hc.targetKey
  aggregateAlias := hc.aggregateAlias
  text h := .same (aligned_of_over h)
  append h h' := h.append h'
  strip h := by
    -- Neither the placeholder nor the text in its place is blank, so trimming stops before both.
    have hb := isBlank_of_isMark hc.isMark
    have hmark := solid_singleton hb
    rw [Fragment.strip_eq, Fragment.strip_eq]
    exact (h.trimStart hmark hb hs).trimEnd hmark hb hs
  blank h := h.blank hs.nonempty
  mono h hmn := h.mono hmn
  value {w w'} h _ := by
    obtain rfl : w = w' := h
    refine .same ?_
    simp [Fragment.Aligned, Dialect.bind, hc.placeholder]
  fill h _ := by
    rw [h.1, h.2, Dialect.bind, hc.placeholder]
    exact .one

/-- The text with `s` in place of its `i`-th character `c`. -/
def replaceAt (c : Char) (s : List Char) (i : ℕ) : List Char → List Char
  | [] => []
  | x :: xs =>
    if x = c ∧ i = 0 then s ++ xs
    else x :: replaceAt c s (if x = c then i - 1 else i) xs

theorem replaceAt_count (c : Char) (s xs ys : List Char) :
    replaceAt c s (xs.count c) (xs ++ c :: ys) = xs ++ s ++ ys := by
  induction xs with
  | nil => simp [replaceAt]
  | cons x xs ih =>
    rw [List.cons_append, replaceAt]
    by_cases hx : x = c
    · subst hx
      have hlater : ¬ (x = x ∧ (x :: xs).count x = 0) := by simp
      rw [if_neg hlater, if_pos rfl, List.count_cons_self, Nat.add_sub_cancel, ih]
      rfl
    · have hother : ¬ (x = c ∧ (x :: xs).count c = 0) := fun h => hx h.1
      rw [if_neg hother, if_neg hx, List.count_cons_of_ne hx, ih]
      rfl

/-- The fragment with SQL text in place of its `i`-th placeholder, without the `i`-th binding. -/
def Fragment.fillAt (c : Char) (i : ℕ) (s : String) (f : Fragment) : Fragment :=
  ⟨String.ofList (replaceAt c s.toList i f.text.toList), f.bindings.eraseIdx i⟩

theorem Fragment.fillAt_append {c : Char} {v : Json} {s : String} {f g : Fragment}
    (hf : f.Aligned c) :
    (f ++ ⟨String.singleton c, [v]⟩ ++ g).fillAt c f.bindings.length s = f ++ s ++ g := by
  ext1
  · rw [← String.toList_inj]
    simp only [fillAt, text_append, String.toList_append, String.toList_singleton,
      String.toList_ofList, List.append_assoc, List.singleton_append]
    rw [← hf, replaceAt_count, List.append_assoc]
  · simp only [fillAt, bindings_append, List.append_assoc, List.singleton_append]
    rw [List.eraseIdx_append_of_length_le le_rfl, Nat.sub_self]
    rfl

/-- Placeholders and bindings stay in step in every statement, whatever it is made of: the `i`-th
placeholder belongs to the `i`-th binding, or the slot of the value is not written at all. -/
theorem placeholders_aligned {t : Target} {c : Char} {q : Query} {f : Fragment} (hc : t.Marks c)
    (hq : q.Within (.without c)) (h : q.compile t = .ok f) :
    f.text.toList.count c = f.bindings.length ∧
      ∀ (v : Json) (s : String) (q' : Query), q.Alike (.slot v s) 1 q' → s ≠ "" → strip s = s →
        q'.compile t = .ok f ∨
          ∃ i, f.bindings[i]? = some v ∧ q'.compile t = .ok (f.fillAt c i s) := by
  have hswapped : ∀ (v : Json) (s : String) (n : ℕ) (q' : Query), q.Alike (.slot v s) n q' →
      Solid s → ∃ f', q'.compile t = .ok f' ∧ Swapped c v s n f f' := by
    intro v s n q' halike hs
    have hagree := halike.compile (lawful_swapped hc hs) hq
    rw [h] at hagree
    generalize q'.compile t = y at hagree
    cases hagree with
    | ok hf => exact ⟨_, rfl, hf⟩
  refine ⟨?_, fun v s q' halike hempty hstrip => ?_⟩
  -- Compared with itself, the query differs nowhere: all of it is one aligned piece.
  · have hself : q.Alike (.slot .null "x") 0 q := q.alike_self fun _ => rfl
    obtain ⟨f', -, hf⟩ := hswapped _ _ 0 q hself ⟨by decide, by decide⟩
    cases hf with
    | same hf => exact hf
  -- With one slot filled, there is at most one place, behind the bindings of the first piece.
  · obtain ⟨f', hf', hf⟩ := hswapped v s 1 q' halike ⟨hempty, hstrip⟩
    cases hf with
    | same hf => exact .inl hf'
    | @swap n g g' post hg hpost =>
      cases hg with
      | same hg =>
        refine .inr ⟨g.bindings.length, ?_, ?_⟩
        · simp
        · rw [hf', Fragment.fillAt_append hg]

/-- The members of an age or older, by a mark in verbatim SQL, with a name. -/
def membersNamed (age : Json) (name : Bound) : Query :=
  .ofBlock ⟨[⟨"from", wildcard, .table (.named "members")⟩,
    ⟨"where", wildcard, .condition (.test ⟨false, false⟩ (.verbatim ⟨"[age] >= ?", [.value age]⟩))⟩,
    ⟨"where", wildcard, .condition (.test ⟨false, true⟩ (.compare "name" "=" name))⟩],
    .select, false, none⟩

set_option maxRecDepth 20000 in
theorem membersNamed_aligned :
    ∃ f, (membersNamed (.int 18) (.value (.str "Ada"))).compile ⟨.sqlite, {}⟩ = .ok f ∧
      f.text.toList.count '?' = f.bindings.length ∧
        ((membersNamed (.int 18) (.raw "nick")).compile ⟨.sqlite, {}⟩ = .ok f ∨
          ∃ i, f.bindings[i]? = some (.str "Ada") ∧
            (membersNamed (.int 18) (.raw "nick")).compile ⟨.sqlite, {}⟩ =
              .ok (f.fillAt '?' i "nick")) := by
  have hmarks : Target.Marks ⟨.sqlite, {}⟩ '?' :=
    ⟨.inl rfl, rfl, by decide, by decide, by decide, by decide, by decide⟩
  have hwithin : (membersNamed (.int 18) (.value (.str "Ada"))).Within (.without '?') := by
    have hletter : ∀ {s : String}, Over (· ≠ '?') s → Over (Content.without '?').letter s := id
    have hfrom : (Body.table (.named "members") : Body Query).Within (.without '?') :=
      hletter (by decide)
    have hage : (Body.condition (.test ⟨false, false⟩ (.verbatim ⟨"[age] >= ?",
        [.value (.int 18)]⟩)) : Body Query).Within (.without '?') :=
      ⟨fun c _ => em (c = '?'), fun b hb => by rw [List.mem_singleton.mp hb]; trivial⟩
    have hname : (Body.condition (.test ⟨false, true⟩ (.compare "name" "=" (.value (.str "Ada")))) :
        Body Query).Within (.without '?') :=
      ⟨hletter (by decide), hletter (by decide), trivial⟩
    refine .ofBlock (List.forall_mem_cons.mpr ⟨hfrom, List.forall_mem_cons.mpr ⟨hage,
      List.forall_mem_singleton.mpr hname⟩⟩) fun q hq => by cases hq
  have halike : (membersNamed (.int 18) (.value (.str "Ada"))).Alike (.slot (.str "Ada") "nick") 1
      (membersNamed (.int 18) (.raw "nick")) := by
    have hage : Verbatim.Alike (.slot (.str "Ada") "nick") 0 ⟨"[age] >= ?", [.value (.int 18)]⟩
        ⟨"[age] >= ?", [.value (.int 18)]⟩ :=
      .mk (.cons (.value rfl) (.nil (k := 0)) (m := 0) le_rfl)
    have hname : Bound.Alike (.slot (.str "Ada") "nick") 1 (.value (.str "Ada")) (.raw "nick") :=
      .fill ⟨rfl, rfl⟩ le_rfl
    refine .mk (Query.Alike _) id ⟨?_, rfl, rfl, rfl⟩
    exact .cons (.mk (.table .named)) (.cons (.mk (.condition (.test (.verbatim hage)))) (.cons
      (.mk (.condition (.test (.compare hname)))) (.nil (k := 0)) le_rfl) le_rfl) (m := 0) le_rfl
  have hcompile : (membersNamed (.int 18) (.value (.str "Ada"))).compile ⟨.sqlite, {}⟩ =
      .ok ⟨"SELECT * FROM \"members\" WHERE \"age\" >= ? AND NOT (\"name\" = ?)",
        [.int 18, .str "Ada"]⟩ := by rfl
  obtain ⟨hcount, hslot⟩ := placeholders_aligned hmarks hwithin hcompile
  exact ⟨_, hcompile, hcount, hslot _ _ _ halike (by decide) (by decide)⟩

end PolySql
