import PolySql.Proofs.Content

/-!
Relations of fragments that the writing of SQL keeps. Main statements: such a relation holds of
verbatim SQL, of connected terms, and of sentences whose parts it holds of.
-/

namespace PolySql

open Text

/-- A relation `sql n` between the fragments of two runs for the target `t`: bound positions differ
as `x` allows, `n` times by text in place of a value, and what they hold is allowed by `p`. -/
structure Lawful (x : Exchange) (p : Content) (t : Target)
    (sql : ℕ → Fragment → Fragment → Prop) : Prop where
  alphabet : Alphabet t.dialect p.letter
  sourceKeySuffix : Over p.letter t.options.sourceKeySuffix
  targetKey : Over p.letter t.options.targetKey
  aggregateAlias : Over p.letter t.options.aggregateAlias
  text : ∀ {s : String}, Over p.letter s → sql 0 s s
  append : ∀ {m n f f' g g'}, sql m f f' → sql n g g' → sql (m + n) (f ++ g) (f' ++ g')
  strip : ∀ {n f f'}, sql n f f' → sql n f.strip f'.strip
  blank : ∀ {n f f'}, sql n f f' → (f.text = "" ↔ f'.text = "")
  mono : ∀ {m n f f'}, sql m f f' → m ≤ n → sql n f f'
  value : ∀ {v v'}, x.value v v' → p.value v → sql 0 (t.dialect.bind v) (t.dialect.bind v')
  fill : ∀ {v s}, x.fill v s → p.value v → sql 1 (t.dialect.bind v) (s : String)

namespace Lawful

variable {x : Exchange} {p : Content} {t : Target} {sql : ℕ → Fragment → Fragment → Prop}
  (law : Lawful x p t sql) {n : ℕ}

include law

theorem word {s : String} (h : s.toList.all isKeywordChar) : Over p.letter s :=
  law.alphabet.word h

theorem written {s : String} (h : Over p.letter s) : sql n s s :=
  law.mono (law.text h) n.zero_le

theorem empty : sql n ∅ ∅ := law.written over_empty

theorem before {s : String} {f f' : Fragment} (hs : Over p.letter s) (h : sql n f f') :
    sql n (s ++ f) (s ++ f') :=
  law.mono (law.append (law.text hs) h) (Nat.zero_add n).le

theorem after {s : String} {f f' : Fragment} (h : sql n f f') (hs : Over p.letter s) :
    sql n (f ++ s) (f' ++ s) :=
  law.append h (law.text hs)

/-- Related fragments are blank together, so both runs take the same branch. -/
theorem ite_blank {m : ℕ} {f f' g g' k k' : Fragment} (h : sql m f f') (hblank : sql n g g')
    (hinked : sql n k k') :
    sql n (if f.text = "" then g else k) (if f'.text = "" then g' else k') := by
  by_cases htext : f.text = ""
  · rw [if_pos htext, if_pos ((law.blank h).mp htext)]
    exact hblank
  · rw [if_neg htext, if_neg fun h' => htext ((law.blank h).mpr h')]
    exact hinked

theorem bound {b b' : Bound} (h : b.Alike x n b') (hw : b.Within p) :
    sql n (t.dialect.bound b) (t.dialect.bound b') := by
  cases h with
  | value h => exact law.mono (law.value h hw) n.zero_le
  | raw => exact law.written hw
  | fill h hn => exact law.mono (law.fill h hw) hn

theorem bounds {bs bs' : List Bound} (h : Along (Bound.Alike x) n bs bs')
    (hw : ∀ b ∈ bs, b.Within p) :
    Along sql n (bs.map t.dialect.bound) (bs'.map t.dialect.bound) := by
  apply h.map
  intro m b b' hb halike
  exact law.bound halike (hw b hb)

theorem separated {s : String} {fs gs : List Fragment} (hs : Over p.letter s)
    (h : Along sql n fs gs) :
    sql n (Fragment.separated s fs) (Fragment.separated s gs) := by
  induction h with
  | nil => exact law.empty
  | cons head tail le ih =>
    cases tail with
    | nil => exact law.mono head (le_of_add_le_left le)
    | cons head' tail le' => exact law.mono (law.append (law.after head hs) ih) le

theorem bindAll {bs bs' : List Bound} (h : Along (Bound.Alike x) n bs bs')
    (hw : ∀ b ∈ bs, b.Within p) :
    sql n (bindAll t.dialect.placeholder bs) (bindAll t.dialect.placeholder bs') :=
  law.separated (law.word (by decide)) (law.bounds h hw)

end Lawful

/-- A character that is no mark stays. -/
theorem fillMarks_of_ne {placeholder : String} {c : Char} {cs : List Char} {bs : List Bound}
    (h : c ≠ '?') :
    fillMarks placeholder (c :: cs) bs = String.singleton c ++ fillMarks placeholder cs bs := by
  rw [fillMarks]
  intro b rest hc
  exact absurd hc h

namespace Lawful

variable {x : Exchange} {p : Content} {t : Target} {sql : ℕ → Fragment → Fragment → Prop}
  (law : Lawful x p t sql) {n : ℕ}

include law

theorem fillMarks {cs : List Char} {bs bs' : List Bound} (hcs : ∀ c ∈ cs, p.sqlLetter c)
    (h : Along (Bound.Alike x) n bs bs') (hw : ∀ b ∈ bs, b.Within p)
    (hcount : cs.count '?' = bs.length) :
    sql n (fillMarks t.dialect.placeholder cs bs) (fillMarks t.dialect.placeholder cs bs') := by
  induction cs generalizing n bs bs' with
  | nil => exact law.empty
  | cons c cs ih =>
    have hrest : ∀ c ∈ cs, p.sqlLetter c := fun c hc => hcs c (List.mem_cons_of_mem _ hc)
    by_cases hc : c = '?'
    · subst hc
      rw [List.count_cons_self] at hcount
      -- There is a value for every mark, so the one that follows belongs to this mark.
      cases h with
      | nil => simp at hcount
      | cons head tail le =>
        have htail := ih hrest tail (fun b hb => hw b (List.mem_cons_of_mem _ hb))
          (by simpa using hcount)
        exact law.mono (law.append (law.bound head (hw _ List.mem_cons_self)) htail) le
    · rw [List.count_cons_of_ne hc] at hcount
      rw [fillMarks_of_ne hc, fillMarks_of_ne hc]
      have hletter : Over p.letter (String.singleton c) := by
        intro y hy
        rw [String.toList_singleton, List.mem_singleton] at hy
        rw [hy]
        exact (hcs c List.mem_cons_self).resolve_left hc
      exact law.before hletter (ih hrest h hw hcount)

theorem verbatim {v v' : Verbatim} (h : v.Alike x n v') (hw : v.Within p) :
    Agree (sql n) (t.dialect.verbatim v) (t.dialect.verbatim v') := by
  cases h with
  | @mk expression bs bs' h =>
    have hquoted : Over p.sqlLetter (t.dialect.quoteMarkers expression) :=
      law.alphabet.withMark.quoteMarkers hw.1
    have hlength := h.length_eq
    simp only [Dialect.verbatim, PolySql.fill, ← hlength]
    split
    · next hcount => exact .ok (law.fillMarks hquoted h hw.2 hcount)
    · exact .error _

end Lawful

end PolySql
