import PolySql.Sql.Select

/-!
Texts over an alphabet. Main statements: quoting, letter case, date parts and the naming of keys
write no character but those of the given texts, of the dialect's quotes, and of keywords.
-/

namespace PolySql

open Text

/-- All characters of the text belong to the alphabet `p`. -/
def Text.Over (p : Char → Prop) (s : String) : Prop := ∀ c ∈ s.toList, p c

instance (p : Char → Prop) [DecidablePred p] (s : String) : Decidable (Text.Over p s) :=
  List.decidableBAll p s.toList

/-- The characters of keywords, function names and literals. -/
def isKeywordChar (c : Char) : Bool :=
  c.isAlphanum || [' ', '(', ')', ',', '.', '*', '=', '!', ':', '\'', '-', '_'].contains c

/-- An alphabet that has the dialect's quotes and keywords, and with a letter its other cases. -/
structure Alphabet (d : Dialect) (p : Char → Prop) : Prop where
  openQuote : Over p d.openQuote
  closeQuote : Over p d.closeQuote
  keyword : ∀ c, isKeywordChar c → p c
  percent : d.flavor = .sqlite → p '%'
  upper : ∀ c, p c → ∀ x ∈ upperChar c, p x
  lower : ∀ c, p c → ∀ x ∈ lowerChar c, p x
  sigma : p 'Σ' → p 'σ' ∧ p 'ς'

namespace Text

section Over

variable {p : Char → Prop}

@[simp] theorem over_append (s t : String) : Over p (s ++ t) ↔ Over p s ∧ Over p t := by
  simp [Over, or_imp, forall_and]

@[simp] theorem over_empty : Over p "" := by
  simp [Over]

theorem Over.imp {q : Char → Prop} {s : String} (h : Over p s) (hq : ∀ c, p c → q c) :
    Over q s := fun c hc => hq c (h c hc)

theorem over_ofList {cs : List Char} (h : ∀ c ∈ cs, p c) : Over p (String.ofList cs) := by
  simpa [Over] using h

theorem over_intercalate {s : String} {ts : List String} (hs : Over p s)
    (hts : ∀ t ∈ ts, Over p t) : Over p (String.intercalate s ts) := by
  induction ts with
  | nil => simp
  | cons t ts ih =>
    have ht : Over p t := hts t List.mem_cons_self
    have hrest := ih fun u hu => hts u (List.mem_cons_of_mem _ hu)
    cases ts with
    | nil => simpa using ht
    | cons u ts =>
      rw [String.intercalate_cons_cons, over_append, over_append]
      exact ⟨⟨ht, hs⟩, hrest⟩

theorem mem_of_mem_trimBoth {q : Char → Bool} {cs : List Char} {c : Char}
    (h : c ∈ trimBoth q cs) : c ∈ cs := by
  rw [trimBoth, List.mem_reverse] at h
  have h' := (List.dropWhile_sublist q).subset h
  rw [List.mem_reverse] at h'
  exact (List.dropWhile_sublist q).subset h'

theorem over_strip {s : String} (h : Over p s) : Over p (strip s) :=
  over_ofList fun c hc => h c (mem_of_mem_trimBoth hc)

theorem mem_of_mem_pieces {width : List Char → Nat} {skip : Nat} {cs w : List Char} {c : Char}
    (hw : w ∈ pieces width skip cs) (hc : c ∈ w) : c ∈ cs := by
  induction cs generalizing skip w with
  | nil => simp_all [pieces]
  | cons x cs ih =>
    unfold pieces at hw
    split at hw
    · exact List.mem_cons_of_mem _ (ih hw hc)
    · cases hp : pieces width 0 cs with
      | nil => exact absurd hp (pieces_ne_nil width 0 cs)
      | cons v vs =>
        rw [hp, consFirst] at hw
        rcases List.mem_cons.mp hw with rfl | hw
        · rcases List.mem_cons.mp hc with rfl | hc
          · exact List.mem_cons_self
          · exact List.mem_cons_of_mem _ (ih (by rw [hp]; exact List.mem_cons_self) hc)
        · exact List.mem_cons_of_mem _ (ih (by rw [hp]; exact List.mem_cons_of_mem _ hw) hc)
    · rcases List.mem_cons.mp hw with rfl | hw
      · simp at hc
      · exact List.mem_cons_of_mem _ (ih hw hc)

theorem over_splitDots {s w : String} (h : Over p s) (hw : w ∈ splitDots s) : Over p w := by
  obtain ⟨cs, hcs, rfl⟩ := List.mem_map.mp hw
  exact over_ofList fun c hc => h c (mem_of_mem_pieces hcs hc)

theorem over_splitAlias {s w : String} (h : Over p s) (hw : w ∈ splitAlias s) : Over p w := by
  obtain ⟨cs, hcs, rfl⟩ := List.mem_map.mp hw
  exact over_ofList fun c hc => h c (mem_of_mem_pieces hcs hc)

theorem mem_of_mem_doubleQuotes {quote : List Char} {skip : Nat} {cs : List Char} {c : Char}
    (h : c ∈ doubleQuotes quote skip cs) : c ∈ quote ∨ c ∈ cs := by
  induction cs generalizing skip with
  | nil => simp [doubleQuotes] at h
  | cons x cs ih =>
    simp only [doubleQuotes] at h
    split at h
    · rcases List.mem_cons.mp h with rfl | h
      · simp
      · exact (ih h).imp_right (List.mem_cons_of_mem _)
    · split at h
      · rcases List.mem_append.mp h with h | h
        · exact Or.inl h
        · rcases List.mem_cons.mp h with rfl | h
          · simp
          · exact (ih h).imp_right (List.mem_cons_of_mem _)
      · rcases List.mem_cons.mp h with rfl | h
        · simp
        · exact (ih h).imp_right (List.mem_cons_of_mem _)

theorem mem_of_mem_parts {cs : List Char} {part : Part} {c : Char} (h : part ∈ parts 0 cs)
    (hc : c ∈ part.written) : c ∈ cs := by
  rw [← (marked_parts cs).flatMap_written]
  exact List.mem_flatMap.mpr ⟨part, h, hc⟩

namespace Singular

theorem mem_of_splitLast? {n : Nat} {cs front last : List Char}
    (h : splitLast? n cs = some (front, last)) {c : Char} (hc : c ∈ front ∨ c ∈ last) :
    c ∈ cs := by
  simp only [splitLast?, Option.ite_none_right_eq_some, Option.some.injEq, List.splitAt_eq,
    Prod.mk.injEq] at h
  obtain ⟨-, rfl, rfl⟩ := h
  rcases hc with hc | hc
  · exact List.mem_of_mem_take hc
  · exact List.mem_of_mem_drop hc

theorem mem_of_splitBreak {cs : List Char} {c : Char}
    (hc : c ∈ (splitBreak cs).1 ∨ c ∈ (splitBreak cs).2) : c ∈ cs := by
  unfold splitBreak at hc
  split at hc
  · next hlast =>
    rcases hc with hc | hc
    · exact (List.dropLast_sublist cs).subset hc
    · rw [List.mem_singleton.mp hc]
      exact List.mem_of_getLast? hlast
  · simpa using hc

theorem mem_of_applyWith {r : Rule} {keep drop : Pattern} {cs out : List Char} {c : Char}
    (h : r.applyWith keep drop cs = some out) (hc : c ∈ out) : c ∈ cs ∨ c ∈ r.put.toList := by
  have hline (hx : c ∈ (splitBreak cs).1 ∨ c ∈ (splitBreak cs).2) : c ∈ cs := mem_of_splitBreak hx
  unfold Rule.applyWith at h
  split at h
  · simp only [Option.bind_eq_bind, Option.bind_eq_some_iff, Prod.exists] at h
    obtain ⟨front, last, hsplit, h⟩ := h
    have hfront (hx : c ∈ front ∨ c ∈ last) : c ∈ (splitBreak cs).1 := mem_of_splitLast? hsplit hx
    simp only [Option.ite_none_right_eq_some, Option.some.injEq] at h
    obtain ⟨-, rfl⟩ := h
    simp only [List.mem_append] at hc
    rcases hc with ((hc | hc) | hc) | hc
    · exact Or.inl (hline (Or.inl (hfront (Or.inl hc))))
    · exact Or.inl (hline (Or.inl (hfront (Or.inr (List.mem_of_mem_take hc)))))
    · exact Or.inr hc
    · exact Or.inl (hline (Or.inr hc))
  · simp only [Option.ite_none_right_eq_some, Option.some.injEq] at h
    obtain ⟨-, rfl⟩ := h
    simp only [List.mem_append] at hc
    rcases hc with (hc | hc) | hc
    · exact Or.inl (hline (Or.inl (List.mem_of_mem_take hc)))
    · exact Or.inr hc
    · exact Or.inl (hline (Or.inr hc))
  · simp only [List.splitAt_eq, Option.ite_none_right_eq_some, Option.some.injEq] at h
    obtain ⟨-, rfl⟩ := h
    simp only [List.mem_append] at hc
    rcases hc with (hc | hc) | hc
    · exact Or.inl (List.mem_of_mem_take (List.mem_of_mem_take hc))
    · exact Or.inr hc
    · exact Or.inl (List.mem_of_mem_drop hc)

theorem mem_of_result? {r : Rule} {cs out : List Char} {c : Char} (h : r.result? cs = some out)
    (hc : c ∈ out) : c ∈ cs ∨ c ∈ r.put.toList := by
  obtain ⟨keep, -, h⟩ := List.exists_of_findSome?_eq_some h
  obtain ⟨drop, -, h⟩ := List.exists_of_findSome?_eq_some h
  exact mem_of_applyWith h hc

end Singular

theorem over_mapMarkers {f : String → String} {s : String} (h : Over p s)
    (hf : ∀ t, Over p t → Over p (f t)) : Over p (mapMarkers f s) := by
  refine over_ofList fun c hc => ?_
  obtain ⟨part, hpart, hc⟩ := List.mem_flatMap.mp hc
  have hmem : ∀ x ∈ part.written, p x := fun x hx => h x (mem_of_mem_parts hpart hx)
  cases part with
  | char x =>
    rw [List.mem_singleton.mp hc]
    exact hmem x List.mem_cons_self
  | name name =>
    exact hf _ (over_ofList fun x hx => hmem x (by simp [Part.written, hx])) c hc

end Over

end Text

namespace Alphabet

variable {d : Dialect} {p : Char → Prop} (a : Alphabet d p)

include a

/-- A text of keyword characters. -/
theorem word {s : String} (h : s.toList.all isKeywordChar) : Over p s :=
  fun c hc => a.keyword c (List.all_eq_true.mp h c hc)

theorem quote {s : String} (h : Over p s) : Over p (d.quote s) := by
  unfold Dialect.quote
  split
  · exact h
  · rw [over_append, over_append]
    -- Inside, only closing quotes are added, where the name has one.
    refine ⟨⟨a.openQuote, over_ofList fun c hc => ?_⟩, a.closeQuote⟩
    rcases mem_of_mem_doubleQuotes hc with hc | hc
    · exact a.closeQuote c hc
    · exact h c hc

theorem dotted {s : String} (h : Over p s) : Over p (d.dotted s) := by
  simp only [Dialect.dotted]
  split
  · exact over_strip h
  · refine over_intercalate (a.word (by decide)) fun t ht => ?_
    obtain ⟨part, hpart, rfl⟩ := List.mem_map.mp ht
    exact a.quote (over_strip (over_splitDots (over_strip h) hpart))

theorem identifier {s : String} (h : Over p s) : Over p (d.identifier s) := by
  have hs := over_strip h
  simp only [Dialect.identifier]
  split
  · exact hs
  · split
    · next target name rest hsplit =>
      have hpiece : ∀ w ∈ splitAlias (strip s), Over p w := fun w => over_splitAlias hs
      rw [hsplit] at hpiece
      rw [over_append, over_append]
      refine ⟨⟨a.dotted (hpiece _ List.mem_cons_self), a.word (by decide)⟩, a.quote ?_⟩
      exact hpiece _ (List.mem_cons_of_mem _ (List.getLast_mem _))
    · exact a.dotted hs

theorem identifiers {names : List String} (h : ∀ s ∈ names, Over p s) :
    Over p (d.identifiers names) := by
  refine over_intercalate (a.word (by decide)) fun t ht => ?_
  obtain ⟨name, hname, rfl⟩ := List.mem_map.mp ht
  exact a.identifier (h name hname)

theorem quoteMarkers {s : String} (h : Over p s) : Over p (d.quoteMarkers s) :=
  over_mapMarkers h fun _ => a.identifier

theorem upperText {s : String} (h : Over p s) : Over p (Text.upper s) := by
  refine over_ofList fun c hc => ?_
  obtain ⟨x, hx, hc⟩ := List.mem_flatMap.mp hc
  exact a.upper x (h x hx) c hc

theorem lowerFrom {b : Bool} {cs : List Char} (h : ∀ c ∈ cs, p c) :
    ∀ c ∈ Text.lowerFrom b cs, p c := by
  induction cs generalizing b with
  | nil => simp [Text.lowerFrom]
  | cons x cs ih =>
    have hx : p x := h x List.mem_cons_self
    intro c hc
    rcases List.mem_append.mp hc with hc | hc
    · split at hc
      · next hsigma =>
        have hs := a.sigma (hsigma ▸ hx)
        rw [List.mem_singleton.mp hc]
        split
        · exact hs.2
        · exact hs.1
      · exact a.lower x hx c hc
    · exact ih (fun y hy => h y (List.mem_cons_of_mem _ hy)) c hc

theorem lowerText {s : String} (h : Over p s) : Over p (Text.lower s) :=
  over_ofList (a.lowerFrom h)

theorem lowerCall {s : String} (h : Over p s) : Over p (Dialect.lowerCall s) := by
  rw [Dialect.lowerCall, over_append, over_append]
  exact ⟨⟨a.word (by decide), h⟩, a.word (by decide)⟩

theorem random {seed : String} (h : Over p seed) : Over p (d.random seed) := by
  unfold Dialect.random
  split
  · rw [over_append, over_append]
    exact ⟨⟨a.word (by decide), h⟩, a.word (by decide)⟩
  · exact a.word (by decide)
  · exact a.word (by decide)

theorem boolLiteral (b : Bool) : Over p (d.boolLiteral b) := by
  unfold Dialect.boolLiteral
  split <;> cases b <;> exact a.word (by decide)

theorem strftimeFormat {name format : String} {numeric : Bool} (hf : d.flavor = .sqlite)
    (h : strftimeFormats.lookup name = some (format, numeric)) : Over p format := by
  have hall : strftimeFormats.all fun f =>
      f.2.1.toList.all fun c => isKeywordChar c || c == '%' := by decide
  have hmem : (name, format, numeric) ∈ strftimeFormats := by
    obtain ⟨before, after, hsplit, -⟩ := List.lookup_eq_some_iff.mp h
    rw [hsplit]
    exact List.mem_append_right _ List.mem_cons_self
  intro c hc
  have hchar := List.all_eq_true.mp (List.all_eq_true.mp hall _ hmem) c hc
  rcases Bool.or_eq_true_iff.mp hchar with hk | hpercent
  · exact a.keyword c hk
  · rw [beq_iff_eq.mp hpercent]
    exact a.percent hf

omit a in
/-- Apostrophes, written twice. -/
theorem over_doubled {p : Char → Prop} {s : String} (h : Over p s) :
    Over p (String.ofList (s.toList.flatMap fun c => if c = '\'' then [c, c] else [c])) := by
  refine over_ofList fun c hx => ?_
  obtain ⟨x, hx, hc⟩ := List.mem_flatMap.mp hx
  have hcx : c = x := by
    split at hc <;> simpa using hc
  exact hcx ▸ h x hx

theorem datePart {part column : String} (hp : Over p part) (hc : Over p column) :
    Over p (d.datePart part column) := by
  have hupper := a.upperText hp
  have hlower := a.lowerText hp
  have hname := a.upperText hlower
  have hcall : Over p (Text.upper part ++ "(" ++ column ++ ")") := by
    simp +decide [hupper, hc, a.word]
  simp only [Dialect.datePart]
  split
  · exact hcall
  · next hf =>
    split
    · exact hcall
    · next format numeric hlookup =>
      have hformat := a.strftimeFormat hf hlookup
      cases numeric <;> simp +decide [hc, hformat, a.word]
  · split
    · simp +decide [hc, a.word]
    · split
      · simp +decide [hc, a.word]
      · have hfield := over_doubled hlower
        simp +decide [hc, hfield, a.word]
  · split <;> simp +decide [hc, hupper, hname, a.word]
  · split <;> simp +decide [hc, hname, a.word]

theorem joinType (type : JoinType) : Over p type.name := by
  cases type <;> exact a.word (by decide)

theorem setKeyword (operation : SetOperation) : Over p (Sql.setKeyword operation) := by
  cases operation <;> exact a.word (by decide)

theorem lockText (mode : Option LockMode) : Over p ((mode.bind d.lock).getD "") := by
  cases mode with
  | none => exact over_empty
  | some mode =>
    simp only [Option.bind_some, Dialect.lock]
    split <;> exact a.word (by decide)

/-- The alphabet of verbatim SQL. -/
theorem withMark : Alphabet d fun c => c = '?' ∨ p c where
  openQuote := a.openQuote.imp fun _ => Or.inr
  closeQuote := a.closeQuote.imp fun _ => Or.inr
  keyword c hc := Or.inr (a.keyword c hc)
  percent hf := Or.inr (a.percent hf)
  upper := by
    rintro c (rfl | hc) x hx
    · have hmark : upperChar '?' = ['?'] := by decide
      rw [hmark, List.mem_singleton] at hx
      exact Or.inl hx
    · exact Or.inr (a.upper c hc x hx)
  lower := by
    rintro c (rfl | hc) x hx
    · have hmark : lowerChar '?' = ['?'] := by decide
      rw [hmark, List.mem_singleton] at hx
      exact Or.inl hx
    · exact Or.inr (a.lower c hc x hx)
  sigma := by
    rintro (h | h)
    · exact absurd h (by decide)
    · exact (a.sigma h).imp Or.inr Or.inr

theorem singular {s : String} (h : Over p s) : Over p (Text.singular s) := by
  -- A rule keeps part of the word and adds an ending of its own.
  have hputs : Singular.rules.all fun r => r.put.toList.all isKeywordChar := by decide +kernel
  simp only [Text.singular]
  split
  · exact h
  · cases hresult : Singular.rules.findSome? (·.result? s.toList) with
    | none => exact over_ofList h
    | some out =>
      obtain ⟨r, hr, hout⟩ := List.exists_of_findSome?_eq_some hresult
      refine over_ofList fun c hc => ?_
      rcases Singular.mem_of_result? hout hc with hc | hc
      · exact h c hc
      · exact a.keyword c (List.all_eq_true.mp (List.all_eq_true.mp hputs r hr) c hc)

end Alphabet

/-- The alphabet of all characters. -/
theorem Alphabet.all (d : Dialect) : Alphabet d fun _ => True where
  openQuote _ _ := trivial
  closeQuote _ _ := trivial
  keyword _ _ := trivial
  percent _ := trivial
  upper _ _ _ _ := trivial
  lower _ _ _ _ := trivial
  sigma _ := ⟨trivial, trivial⟩

end PolySql
