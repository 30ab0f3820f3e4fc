import PolySql.Proofs.Alike.Lookup

/-!
Path joins of alike queries. Main statement: alike clause lists expand to alike clause lists, each
component at the cost it had, or fail with the same error. Nothing is asked of singulars but that
they are over the alphabet of the tables.
-/

namespace PolySql

open Text

namespace Lawful

variable {x : Exchange} {p : Content} {t : Target} {sql : ℕ → Fragment → Fragment → Prop}
  (law : Lawful x p t sql) {n : ℕ}

section Names

include law

theorem keyOf {j : PathJoin} {table : String} (hj : j.Within p) (ht : Over p.letter table) :
    Over p.letter (j.keyOf t.options table) := by
  obtain ⟨-, -, hkey, -, hgenerator⟩ := hj
  unfold PathJoin.keyOf
  split
  · next hg => exact hgenerator _ hg _ ht
  · exact law.targetKey
  · cases hk : j.targetKey with
    | none => exact law.targetKey
    | some key => exact hkey key hk

variable [Inflection]
  (hsingular : ∀ s, Over p.letter s → Over p.letter (Inflection.singular s))

include hsingular

theorem sourceKey {j : PathJoin} {table : String} (hj : j.Within p) (ht : Over p.letter table) :
    Over p.letter (j.sourceKey t.options table) := by
  obtain ⟨-, hsuffix, -, hgenerator, -⟩ := hj
  unfold PathJoin.sourceKey
  split
  · next hg => exact hgenerator _ hg _ ht
  · rw [over_append]
    refine ⟨hsingular _ ht, ?_⟩
    cases hs : j.sourceKeySuffix with
    | none => exact law.sourceKeySuffix
    | some suffix => exact hsuffix suffix hs

theorem link {j : PathJoin} {engine source table : String} (hj : j.Within p)
    (hs : Over p.letter source) (ht : Over p.letter table) (w : String → ℕ) :
    Clause.Seen x p t sql w (j.link t.options engine source table)
      (j.link t.options engine source table) := by
  refine ⟨rfl, rfl, fun _ => ⟨?_, ?_⟩⟩
  · exact .join (.explicit .named (.cons (.mk (.test .columns)) .nil (le_refl (0 + 0)))
      (Nat.zero_le _))
  · have hdot : Over p.letter "." := law.word (by decide)
    have hequals : Over p.letter "=" := law.word (by decide)
    have hfirst : Over p.letter (source ++ "." ++ j.sourceKey t.options table) :=
      (over_append _ _).mpr ⟨(over_append _ _).mpr ⟨hs, hdot⟩, law.sourceKey hsingular hj ht⟩
    have hsecond : Over p.letter (table ++ "." ++ j.keyOf t.options table) :=
      (over_append _ _).mpr ⟨(over_append _ _).mpr ⟨ht, hdot⟩, law.keyOf hj ht⟩
    exact ⟨ht, ⟨hfirst, hequals, hsecond⟩, trivial⟩

theorem chain {j : PathJoin} {engine source : String} {tables : List String} (hj : j.Within p)
    (hs : Over p.letter source) (ht : ∀ table ∈ tables, Over p.letter table) (w : String → ℕ) :
    Along (Clause.Seen x p t sql) w (j.chain t.options engine source tables)
      (j.chain t.options engine source tables) := by
  induction tables generalizing source with
  | nil => exact .nil
  | cons table rest ih =>
    have htable := ht table List.mem_cons_self
    have hrest := ih htable fun u hu => ht u (List.mem_cons_of_mem _ hu)
    exact .cons (law.link hsingular hj hs htable 0) hrest (zero_add w).le

end Names

theorem refName_eq {b b' : Body SubSelect} (h : b.Fits x p sql n b') : b.refName = b'.refName := by
  obtain ⟨h, -⟩ := h
  cases h with
  | table h =>
    cases h with
    | derived h => exact refName_derived h
    | _ => rfl
  | _ => rfl

theorem over_refName {b : Body SubSelect} (hw : b.Within p) : ∀ s ∈ b.refName, Over p.letter s := by
  cases b with
  | table a =>
    cases a with
    | base => simp [Body.refName, Table.refName]
    | named table =>
      intro s hs
      simp only [Body.refName, Table.refName] at hs
      split at hs
      · next target name rest hsplit =>
        rw [Option.mem_def, Option.some.injEq] at hs
        have hlast : (name :: rest).getLast (List.cons_ne_nil _ _) ∈ splitAlias table := by
          rw [hsplit]
          exact List.mem_cons_of_mem _ (List.getLast_mem _)
        rw [← hs]
        exact over_strip (over_splitAlias hw hlast)
      · rw [Option.mem_def, Option.some.injEq] at hs
        rw [← hs]
        exact hw
    | verbatim verbatim aliasName => exact hw.2
    | derived query aliasName => exact over_refName_derived hw
  | _ => simp [Body.refName]

theorem pathJoin?_eq {w : String → ℕ} {c c' : Clause SubSelect}
    (h : Clause.Seen x p t sql w c c') : pathJoin? t c = pathJoin? t c' := by
  have happlies : c'.appliesTo t.engine = c.appliesTo t.engine := by
    simp only [Scoped.appliesTo, h.engine]
  -- Of a clause that the target does not see, not even the kind is known.
  by_cases hseen : c.appliesTo t.engine
  · have halike := (h.fits hseen).alike
    unfold pathJoin?
    generalize c.item = b, c'.item = b' at halike
    cases halike with
    | join h =>
      cases h with
      | path => simp only [happlies]
      | _ => rfl
    | _ => rfl
  · rw [pathJoin?_of_unseen hseen, pathJoin?_of_unseen (happlies ▸ hseen)]

theorem baseAlias {w : String → ℕ} {cs cs' : List (Clause SubSelect)}
    (h : Along (Clause.Seen x p t sql) w cs cs') :
    baseAlias t cs = baseAlias t cs' ∧ ∀ s ∈ baseAlias t cs, Over p.letter s := by
  have hfrom := effectiveItem_alike (visible_alike h "from")
  unfold PolySql.baseAlias
  generalize effectiveItem cs "from" t.engine = a, effectiveItem cs' "from" t.engine = b at hfrom ⊢
  cases hfrom with
  | none => exact ⟨rfl, fun s hs => by cases hs⟩
  | some h =>
    obtain ⟨m, -, h⟩ := h
    simp only [Option.bind_some, ← refName_eq h]
    exact ⟨trivial, fun s hs => over_refName h.within s (Option.filter_eq_some_iff.mp hs).1⟩

theorem over_tables {j : PathJoin} (hj : j.Within p) : ∀ table ∈ j.tables, Over p.letter table :=
  fun _ ht => over_splitDots hj.1 (List.mem_of_mem_filter ht)

variable [Inflection]
  (hsingular : ∀ s, Over p.letter s → Over p.letter (Inflection.singular s))

include law hsingular

theorem expandClause {w : String → ℕ} {c c' : Clause SubSelect} {base? : Option String}
    (hbase : ∀ s ∈ base?, Over p.letter s) (h : Clause.Seen x p t sql w c c') :
    Agree (Along (Clause.Seen x p t sql) w) (expandClause t base? c)
      (expandClause t base? c') := by
  unfold PolySql.expandClause
  rw [← pathJoin?_eq h, ← h.engine]
  split
  · exact .ok (.cons h .nil (add_zero w).le)
  · next j hj =>
    obtain ⟨hseen, hitem⟩ := pathJoin?_eq_some_iff.mp hj
    have hwithin := (h.fits hseen).within
    rw [hitem] at hwithin
    have htables := over_tables (j := j) hwithin
    split
    · exact .ok .nil
    · exact .error _
    · exact .ok (law.chain hsingular hwithin (hbase _ rfl) htables w)

/-- Path joins cost nothing, and expanding them moves no cost from one component to another. -/
theorem expandPaths {w : String → ℕ} {cs cs' : List (Clause SubSelect)}
    (h : Along (Clause.Seen x p t sql) w cs cs') :
    Agree (Along (Clause.Seen x p t sql) w) (expandPaths t cs) (expandPaths t cs') := by
  obtain ⟨hbase, hover⟩ := baseAlias h
  unfold PolySql.expandPaths
  rw [← hbase]
  exact (h.mapM fun _ _ _ hc => law.expandClause hsingular hover hc).map fun _ _ h => h.flatten

end Lawful

end PolySql
