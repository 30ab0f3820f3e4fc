import PolySql.Proofs.Acceptance
import PolySql.Proofs.Bindings
import PolySql.Proofs.Portable.Inventory
import PolySql.Proofs.Portable.Run

/-!
Pairs of targets that bind alike. Main statement: for such targets a condition binds alike, if the
queries nested in it do.
-/

namespace PolySql

/-- Both targets or neither own the engine. -/
def SameScope (t t' : Target) (engine : String) : Prop :=
  (engine == t.engine) = (engine == t'.engine)

/-- A relation `r` of what is bound for two targets that every part of a statement keeps, as far as
its windows satisfy `paged`. Errors are related by `err`, but not where a path join stands among the
joins. -/
structure Portable (t t' : Target) (err : CompileError → CompileError → Prop)
    (r : List Json → List Json → Prop) (paged : Window → Prop) : Prop where
  options : t.options = t'.options
  wildcard : SameScope t t' wildcard
  marks : ∀ s, (t.dialect.quoteMarkers s).toList.count '?' =
    (t'.dialect.quoteMarkers s).toList.count '?'
  miscount : ∀ s n, err (.bindingCount (t.dialect.quoteMarkers s) n)
    (.bindingCount (t'.dialect.quoteMarkers s) n)
  refused : ∀ e, e ≠ .unrecognized "DeepJoinClause" .join → err e e
  same : ∀ vs, r vs vs
  append : ∀ {vs vs' ws ws'}, r vs vs' → r ws ws' → r (vs ++ ws) (vs' ++ ws')
  window : ∀ {w vs vs'}, paged w → r vs vs' →
    r (t.dialect.windowed w vs) (t'.dialect.windowed w vs')

/-- Fragments whose bindings are related. -/
def BindAlike (r : List Json → List Json → Prop) (f f' : Fragment) : Prop :=
  r f.bindings f'.bindings

/-- The query binds alike as a select. -/
def Query.Ported (t t' : Target) (err : CompileError → CompileError → Prop)
    (r : List Json → List Json → Prop) (q : Query) : Prop :=
  Concur err (BindAlike r) (q.subSelect t).select (q.subSelect t').select

theorem bindings_pattern (d d' : Dialect) (column operator value : String) (caseSensitive : Bool) :
    (Sql.pattern d column operator value caseSensitive).bindings =
      (Sql.pattern d' column operator value caseSensitive).bindings := by
  unfold Sql.pattern
  cases Sql.likePattern? operator value <;> cases caseSensitive <;> simp [Dialect.bind]

namespace Portable

variable {t t' : Target} {err : CompileError → CompileError → Prop}
  {r : List Json → List Json → Prop} {paged : Window → Prop} (law : Portable t t' err r paged)

include law

theorem of_eq {f f' : Fragment} (h : f.bindings = f'.bindings) : BindAlike r f f' := by
  rw [BindAlike, h]
  exact law.same _

/-- Both targets refuse a clause of the wrong kind. -/
theorem unrecognized (kind : String) {place : Section} (h : place ≠ .join) :
    err (.unrecognized kind place) (.unrecognized kind place) :=
  law.refused _ fun heq => h (CompileError.unrecognized.inj heq).2

theorem verbatim (sql : Verbatim) :
    Concur err (BindAlike r) (t.dialect.verbatim sql) (t'.dialect.verbatim sql) := by
  unfold Dialect.verbatim fill
  rw [← law.marks]
  split
  · next hcount =>
    have hcount' := (law.marks sql.expression).symm.trans hcount
    refine .ok (law.of_eq ?_)
    rw [bindings_fillMarks _ hcount, bindings_fillMarks _ hcount']
  · exact .error (law.miscount _ _)

theorem mapM {α β γ : Type} {b : γ → List Json} {f : α → Except CompileError γ}
    {g : β → Except CompileError γ} {as : List α} {bs : List β}
    (h : List.Forall₂ (fun a a' => Concur err (fun c c' => r (b c) (b c')) (f a) (g a')) as bs) :
    Concur err (fun cs cs' => r (cs.flatMap b) (cs'.flatMap b)) (as.mapM f) (bs.mapM g) :=
  Concur.mapM (law.same []) law.append h

omit law in
theorem separated {f f' : List Fragment} (s : String)
    (h : r (f.flatMap (·.bindings)) (f'.flatMap (·.bindings))) :
    BindAlike r (.separated s f) (.separated s f') := by
  simpa only [BindAlike, Fragment.bindings_separated] using h

theorem test (isNot : Bool) {c : Test Query} (h : ∀ q ∈ c.nested, q.Ported t t' err r) :
    Concur err (BindAlike r) (Sql.test t.dialect isNot (c.map (Query.subSelect t)))
      (Sql.test t'.dialect isNot (c.map (Query.subSelect t'))) := by
  cases c with
  | base =>
    -- The kinds are made equal first: their nested queries are not.
    simp only [Test.map, Sql.test]
    exact .error (law.unrecognized _ (by decide))
  | verbatim sql => exact law.verbatim sql
  | pattern column operator value caseSensitive =>
    refine .ok (law.of_eq ?_)
    rw [bindings_negated, bindings_negated]
    exact bindings_pattern _ _ _ _ _ _
  | oneOf column values =>
    refine .ok (law.of_eq ?_)
    rw [Dialect.bindings_oneOf, Dialect.bindings_oneOf]
  | subquery column operator query =>
    exact (h query List.mem_cons_self).bind fun f f' hf => .pure (by simpa [BindAlike] using hf)
  | oneOfQuery column query =>
    exact (h query List.mem_cons_self).bind fun f f' hf => .pure (by simpa [BindAlike] using hf)
  | nonempty query =>
    exact (h query List.mem_cons_self).bind fun f f' hf => .pure (by simpa [BindAlike] using hf)
  | _ =>
    simp only [Test.map, Sql.test]
    exact .ok (law.of_eq (by simp))

theorem memberTerms {members : List (Scoped (Condition Query))}
    (hscope : ∀ c ∈ members, SameScope t t' c.engine)
    (h : ∀ c ∈ members, Concur err (BindAlike r)
      (Sql.condition t.dialect (c.item.map (Query.subSelect t)))
      (Sql.condition t'.dialect (c.item.map (Query.subSelect t')))) :
    Concur err (fun terms terms' =>
        r (terms.flatMap (·.sql.bindings)) (terms'.flatMap (·.sql.bindings)))
      (Sql.memberTerms t.dialect (members.map (Scoped.map (Condition.map (Query.subSelect t)))))
      (Sql.memberTerms t'.dialect
        (members.map (Scoped.map (Condition.map (Query.subSelect t'))))) := by
  induction members with
  | nil => exact .ok (law.same [])
  | cons c rest ih =>
    obtain ⟨component, engine, c⟩ := c
    have hengine : (engine == t.engine) = (engine == t'.engine) := hscope _ List.mem_cons_self
    have hcondition := h _ List.mem_cons_self
    have hrest := ih (fun c hc => hscope c (List.mem_cons_of_mem _ hc))
      fun c hc => h c (List.mem_cons_of_mem _ hc)
    simp only [List.map_cons, Scoped.map, Sql.memberTerms, hengine]
    split
    · refine hcondition.bind fun f f' hf => ?_
      refine hrest.bind fun terms terms' hterms => .pure ?_
      exact law.append hf hterms
    · exact hrest

theorem condition {c : Condition Query} (hscope : ∀ e ∈ c.engines, SameScope t t' e)
    (h : ∀ q ∈ c.nested, q.Ported t t' err r) :
    Concur err (BindAlike r) (Sql.condition t.dialect (c.map (Query.subSelect t)))
      (Sql.condition t'.dialect (c.map (Query.subSelect t'))) := by
  induction c using Condition.induction with
  | test flags c =>
    simp only [Condition.nested] at h
    simp only [Condition.map, Sql.condition]
    exact law.test flags.isNot h
  | group flags members ih =>
    simp only [Condition.nested, Condition.mem_nestedMembers] at h
    simp only [Condition.engines, Condition.memberEngines_eq, List.mem_flatMap,
      List.mem_cons] at hscope
    simp only [Condition.map, Condition.mapMembers_eq, Sql.condition]
    have hterms := law.memberTerms (fun c hc => hscope _ ⟨c, hc, .inl rfl⟩)
      fun c hc => ih c hc (fun e he => hscope e ⟨c, hc, .inr he⟩) fun q hq => h q ⟨c, hc, hq⟩
    refine hterms.bind fun terms terms' hr => .pure ?_
    rwa [BindAlike, bindings_group, bindings_group, bindings_connect, bindings_connect]

/-- The members of a list of conditions. -/
theorem conditions {members : List (Scoped (Condition Query))}
    (hscope : ∀ e ∈ Condition.memberEngines members, SameScope t t' e)
    (h : ∀ q ∈ Condition.nestedMembers members, q.Ported t t' err r) :
    Concur err (fun terms terms' =>
        r (terms.flatMap (·.sql.bindings)) (terms'.flatMap (·.sql.bindings)))
      (Sql.memberTerms t.dialect (members.map (Scoped.map (Condition.map (Query.subSelect t)))))
      (Sql.memberTerms t'.dialect
        (members.map (Scoped.map (Condition.map (Query.subSelect t'))))) := by
  simp only [Condition.mem_nestedMembers] at h
  simp only [Condition.memberEngines_eq, List.mem_flatMap, List.mem_cons] at hscope
  exact law.memberTerms (fun c hc => hscope _ ⟨c, hc, .inl rfl⟩)
    fun c hc => law.condition (fun e he => hscope e ⟨c, hc, .inr he⟩) fun q hq => h q ⟨c, hc, hq⟩

end Portable

end PolySql
