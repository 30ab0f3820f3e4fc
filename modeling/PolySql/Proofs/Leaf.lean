import PolySql.Proofs.Logic
import PolySql.Proofs.Pieces

/-!
The leaves of conditions: single tests, through groups. Main statements: what is written for
conditions is put together from what is written for their leaves, and for a built-in dialect only
verbatim SQL can come out blank, and then it binds nothing.
-/

namespace PolySql

open Text

/-- A test where it stands, with its negation. -/
structure Leaf (Q : Type) where
  isNot : Bool
  test : Test Q

def Leaf.map {Q R : Type} (f : Q → R) (leaf : Leaf Q) : Leaf R := ⟨leaf.isNot, leaf.test.map f⟩

section Leaves

variable {Q : Type} (engine : String)

mutual

/-- The leaves that the engine sees, through groups that it sees. -/
def Condition.leaves : Condition Q → List (Leaf Q)
  | .test flags t => [⟨flags.isNot, t⟩]
  | .group _ members => Condition.leavesOf members

def Condition.leavesOf : List (Scoped (Condition Q)) → List (Leaf Q)
  | [] => []
  | ⟨_, e, c⟩ :: rest =>
    if e == wildcard || e == engine then c.leaves ++ Condition.leavesOf rest
    else Condition.leavesOf rest

end

def Body.leaves : Body Q → List (Leaf Q)
  | .condition c => c.leaves engine
  | _ => []

end Leaves

/-- A leaf of verbatim SQL of which nothing is left once names and bindings are filled in. -/
def Leaf.IsBlank {Q : Type} (d : Dialect) (leaf : Leaf Q) : Prop :=
  ∃ sql f, leaf.test = .verbatim sql ∧ d.verbatim sql = .ok f ∧ strip f.text = ""

/-- What is written for a leaf, without blanks at its ends. -/
def Leaf.Renders (d : Dialect) (leaf : Leaf SubSelect) (g : Fragment) : Prop :=
  ∃ f, Sql.test d leaf.isNot leaf.test = .ok f ∧ g = f.strip

/-- The fragment is put together from what is written for the leaves. -/
def Displays (d : Dialect) (leaves : List (Leaf SubSelect)) (f : Fragment) : Prop :=
  ∃ gs, List.Forall₂ (Leaf.Renders d) leaves gs ∧ f.Gathers gs

section Displays

variable {d : Dialect} {leaves : List (Leaf SubSelect)} {f : Fragment}

theorem displays_test {isNot : Bool} {t : Test SubSelect} (h : Sql.test d isNot t = .ok f) :
    Displays d [⟨isNot, t⟩] f.strip :=
  ⟨[f.strip], .cons ⟨f, h, rfl⟩ .nil, .single f.strip⟩

/-- Connected terms display what the terms do, in a row. -/
theorem displays_connectFrom {leaves : List (List (Leaf SubSelect))} {terms : List Sql.Term}
    (h : List.Forall₂ (fun ls term => Displays d ls term.sql) leaves terms) (lead : String)
    (started : Bool) : Displays d leaves.flatten (Sql.connectFrom lead started terms) := by
  induction h generalizing started with
  | nil => exact ⟨[], .nil, .nil⟩
  | @cons ls term leaves terms hterm _ ih =>
    obtain ⟨gs, hgs, hterm⟩ := hterm
    obtain ⟨hs, hhs, hrest⟩ := ih (started || term.sql.text ≠ "")
    refine ⟨gs ++ hs, List.rel_append hgs hhs, ?_⟩
    rw [Sql.connectFrom]
    split
    · next hblank =>
      simp only [hblank, ne_eq, not_true_eq_false, decide_false, Bool.or_false] at hrest
      exact hterm.append hrest
    · next hne =>
      simp only [ne_eq, hne, not_false_eq_true, decide_true, Bool.or_true] at hrest
      exact (hterm.behind hne _ rfl).append hrest

theorem strip_group (isNot : Bool) (f : Fragment) :
    (Sql.group isNot f).strip = Sql.group isNot f := by
  ext1
  · unfold Sql.group
    split
    · next hblank =>
      show strip f.text = f.text
      rw [hblank]
      rfl
    · have htext : ∀ pre : String, ((pre : Fragment) ++ Sql.paren f).text =
          pre ++ ("(" ++ f.text ++ ")") := fun _ => rfl
      rw [Fragment.strip, htext, strip_enclosed]
  · rfl

theorem displays_group {isNot : Bool} (h : Displays d leaves f) :
    Displays d leaves (Sql.group isNot f) := by
  obtain ⟨gs, hgs, hf⟩ := h
  refine ⟨gs, hgs, ?_⟩
  unfold Sql.group
  split
  · exact hf
  · next hne =>
    have hparen : (Sql.paren f).Gathers gs := hf.between hne "(" rfl rfl
    refine hparen.behind ?_ _ rfl
    simp [Sql.paren, String.append_eq_empty_iff]

theorem displays_terms {cs : List (Clause SubSelect)} {terms : List Sql.Term}
    (h : cs.mapM (Sql.clauseTerm d) = .ok terms)
    (hcs : ∀ c ∈ cs, ∀ term, Sql.clauseTerm d c = .ok term →
      Displays d (c.item.leaves d.name) term.sql) (lead : String) :
    Displays d (cs.flatMap (·.item.leaves d.name)) (Sql.connect lead terms) := by
  rw [List.flatMap_def]
  refine displays_connectFrom ?_ lead false
  have hterms := (List.forall₂_and_left _ _).mpr ⟨hcs, mapM_eq_ok_iff.mp h⟩
  exact List.forall₂_map_left_iff.mpr (hterms.imp fun c term hc => hc.1 term hc.2)

/-- The terms of members are those of the members that the dialect sees, taken as clauses. -/
theorem memberTerms_eq_mapM (members : List (Scoped (Condition SubSelect))) :
    Sql.memberTerms d members =
      ((members.filter (·.appliesTo d.name)).map (Scoped.map Body.condition)).mapM
        (Sql.clauseTerm d) := by
  induction members with
  | nil => rfl
  | cons m rest ih =>
    obtain ⟨component, e, c⟩ := m
    rw [Sql.memberTerms, ih]
    by_cases hseen : (e == wildcard || e == d.name) = true
    · simp only [hseen, if_true, List.filter_cons, Scoped.appliesTo, List.map_cons,
        List.mapM_cons, Sql.clauseTerm, Scoped.map, bind_assoc, pure_bind]
    · simp only [hseen, List.filter_cons, Scoped.appliesTo, Bool.false_eq_true, if_false]

theorem leavesOf_eq_flatMap {Q : Type} (engine : String) (members : List (Scoped (Condition Q))) :
    Condition.leavesOf engine members =
      ((members.filter (·.appliesTo engine)).map (Scoped.map Body.condition)).flatMap
        (·.item.leaves engine) := by
  induction members with
  | nil => simp [Condition.leavesOf]
  | cons m rest ih =>
    obtain ⟨component, e, c⟩ := m
    rw [Condition.leavesOf, ih]
    by_cases hseen : (e == wildcard || e == engine) = true
    · simp only [hseen, if_true, List.filter_cons, Scoped.appliesTo, List.map_cons,
        List.flatMap_cons, Scoped.map, Body.leaves]
    · simp only [hseen, List.filter_cons, Scoped.appliesTo, Bool.false_eq_true, if_false]

theorem displays_condition {c : Condition SubSelect} (h : Sql.condition d c = .ok f) :
    Displays d (c.leaves d.name) f.strip := by
  induction c using Condition.induction generalizing f with
  | test flags t =>
    simp only [Sql.condition] at h
    simp only [Condition.leaves]
    exact displays_test h
  | group flags members ih =>
    simp only [Sql.condition] at h
    obtain ⟨terms, hterms, rfl⟩ := exists_of_bind_pure h
    rw [memberTerms_eq_mapM] at hterms
    rw [Condition.leaves, leavesOf_eq_flatMap, strip_group]
    refine displays_group (displays_terms hterms (fun c hc term hterm => ?_) "")
    obtain ⟨m, hm, rfl⟩ := List.mem_map.mp hc
    obtain ⟨g, hg, rfl⟩ := exists_of_bind_pure hterm
    exact ih m (List.mem_filter.mp hm).1 hg

/-- A term comes of a condition, without blanks at its ends. -/
theorem exists_of_clauseTerm {c : Clause SubSelect} {term : Sql.Term}
    (h : Sql.clauseTerm d c = .ok term) :
    ∃ cond f, c.item = .condition cond ∧ Sql.condition d cond = .ok f ∧
      term = ⟨cond.flags.isOr, f.strip⟩ := by
  obtain ⟨component, e, b⟩ := c
  cases b with
  | condition cond =>
    obtain ⟨f, hf, rfl⟩ := exists_of_bind_pure h
    exact ⟨cond, f, rfl, hf, rfl⟩
  | _ => cases h

theorem displays_clauseTerm {c : Clause SubSelect} {term : Sql.Term}
    (h : Sql.clauseTerm d c = .ok term) : Displays d (c.item.leaves d.name) term.sql := by
  obtain ⟨cond, f, hc, hf, rfl⟩ := exists_of_clauseTerm h
  rw [hc]
  exact displays_condition hf

theorem displays_memberTerms {members : List (Scoped (Condition SubSelect))}
    {terms : List Sql.Term} (h : Sql.memberTerms d members = .ok terms) :
    Displays d (Condition.leavesOf d.name members) (Sql.connect "" terms) := by
  rw [memberTerms_eq_mapM] at h
  rw [leavesOf_eq_flatMap]
  exact displays_terms h (fun c _ term => displays_clauseTerm) ""

end Displays

/-- Connected terms end with the last one that is not blank. -/
theorem ends_connectFrom {terms : List Sql.Term}
    (hterms : ∀ term ∈ terms, term.sql.strip = term.sql) (lead : String) {started : Bool}
    (hne : (Sql.connectFrom lead started terms).text ≠ "") :
    Ends (Sql.connectFrom lead started terms).text := by
  induction terms generalizing started with
  | nil => exact absurd rfl hne
  | cons term rest ih =>
    have hrest : ∀ started, (Sql.connectFrom lead started rest).text ≠ "" →
        Ends (Sql.connectFrom lead started rest).text :=
      fun _ => ih fun e he => hterms e (List.mem_cons_of_mem _ he)
    rw [Sql.connectFrom] at hne ⊢
    split at hne
    · next hblank =>
      rw [if_pos hblank, Fragment.text_append, hblank, String.empty_append]
      rw [Fragment.text_append, hblank, String.empty_append] at hne
      exact hrest started hne
    · next hshown =>
      rw [if_neg hshown]
      by_cases hlast : (Sql.connectFrom lead true rest).text = ""
      · have hsolid : Solid term.sql.text :=
          ⟨hshown, congrArg Fragment.text (hterms term List.mem_cons_self)⟩
        rw [Fragment.text_append, hlast, String.append_empty]
        exact hsolid.ends.append _
      · exact (hrest true hlast).append _

theorem strip_clauseTerm {d : Dialect} {c : Clause SubSelect} {term : Sql.Term}
    (h : Sql.clauseTerm d c = .ok term) : term.sql.strip = term.sql := by
  obtain ⟨cond, f, -, -, rfl⟩ := exists_of_clauseTerm h
  exact Fragment.ext (strip_strip f.text) rfl

section Map

variable {Q R : Type} (engine : String) (f : Q → R)

theorem Condition.leaves_map (c : Condition Q) :
    (c.map f).leaves engine = (c.leaves engine).map (Leaf.map f) := by
  induction c using Condition.induction with
  | test flags t =>
    simp only [Condition.map, Condition.leaves, List.map_cons, List.map_nil, Leaf.map]
  | group flags members ih =>
    simp only [Condition.map, Condition.leaves, Condition.mapMembers_eq, leavesOf_eq_flatMap,
      List.filter_map, List.flatMap_map, List.map_flatMap]
    exact List.flatMap_congr fun c hc => ih c (List.mem_filter.mp hc).1

theorem Body.leaves_map (b : Body Q) :
    (b.map f).leaves engine = (b.leaves engine).map (Leaf.map f) := by
  cases b with
  | condition c => exact c.leaves_map engine f
  | _ => rfl

theorem Leaf.isBlank_map {d : Dialect} (leaf : Leaf Q) :
    (leaf.map f).IsBlank d ↔ leaf.IsBlank d := by
  obtain ⟨isNot, t⟩ := leaf
  cases t <;> simp [Leaf.IsBlank, Leaf.map, Test.map]

end Map

section Blank

variable {d : Dialect}

/-- Verbatim SQL that binds a value shows a placeholder. -/
theorem inked_fillMarks {placeholder : String} (hp : Inked placeholder) {cs : List Char}
    {bs : List Bound} (h : (fillMarks placeholder cs bs).bindings ≠ []) :
    Inked (fillMarks placeholder cs bs).text := by
  fun_induction fillMarks placeholder cs bs with
  | case1 => exact absurd rfl h
  | case2 cs b rest ih =>
    rw [Fragment.text_append, inked_append]
    cases b with
    | value v => exact .inl hp
    | raw sql => exact .inr (ih h)
  | case3 c cs bs hmark ih => exact (ih h).append_right _

theorem inked_verbatim (hp : Inked d.placeholder) {sql : Verbatim} {f : Fragment}
    (h : d.verbatim sql = .ok f) (hne : f.bindings ≠ []) : Inked f.text := by
  rw [Dialect.verbatim, fill] at h
  split at h
  · obtain rfl := Except.ok.inj h
    exact inked_fillMarks hp hne
  · cases h

theorem inked_placeholder (hd : d ∈ Dialect.builtin) : Inked d.placeholder := by
  simp only [Dialect.builtin, List.mem_cons, List.not_mem_nil, or_false] at hd
  rcases hd with rfl | rfl | rfl | rfl <;> decide

variable {leaf : Leaf SubSelect} {g : Fragment} (hd : d ∈ Dialect.builtin)

include hd

/-- Only verbatim SQL can come out blank. -/
theorem Leaf.Renders.blank_iff (h : leaf.Renders d g) : g.text = "" ↔ leaf.IsBlank d := by
  obtain ⟨f, hf, rfl⟩ := h
  constructor
  · intro hblank
    by_contra hleaf
    have hverbatim : ∀ sql, leaf.test ≠ .verbatim sql := by
      intro sql hsql
      rw [hsql] at hf
      exact hleaf ⟨sql, f, hsql, hf, hblank⟩
    exact (inked_test (starts_openQuote hd) hf hverbatim).strip.ne_empty hblank
  · rintro ⟨sql, f', hsql, hf', hblank⟩
    rw [hsql] at hf
    rw [Except.ok.inj (hf.symm.trans hf')]
    exact hblank

theorem Leaf.Renders.bindings_of_blank (h : leaf.Renders d g) (hblank : g.text = "") :
    g.bindings = [] := by
  obtain ⟨sql, f', hsql, hf', hblank'⟩ := (h.blank_iff hd).mp hblank
  obtain ⟨f, hf, rfl⟩ := h
  rw [hsql] at hf
  obtain rfl := Except.ok.inj (hf.symm.trans hf')
  by_contra hne
  exact (inked_verbatim (inked_placeholder hd) hf' hne).strip.ne_empty hblank'

end Blank

end PolySql
