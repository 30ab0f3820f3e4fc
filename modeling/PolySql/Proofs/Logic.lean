import Mathlib.Data.List.Forall2
import PolySql.Proofs.Atom
import PolySql.Query.Induction
import PolySql.Sql.Select

/-!
Conditions as boolean expressions. Main statement: what is written for a list of conditions is an
expression over the tests that the dialect sees, with the intended value and no other.
-/

namespace PolySql

open Text

/-- The tokens of the terms that are not blank, each with its connector. -/
structure IsPhrase (d : Dialect) (terms : List Sql.Term) (tests : List (Test SubSelect))
    (values : (Test SubSelect → Bool) → List (Bool × Bool))
    (units : List (Bool × List (Token Atom))) : Prop where
  terms : (terms.filter (·.sql.text ≠ "")).map (fun term => (term.isOr, term.sql.text)) =
    units.map fun u => (u.1, spelled u.2)
  tests : units.flatMap (fun u => u.2.filterMap Token.test?) = tests
  written : ∀ u ∈ units, ∀ a, .atom a ∈ u.2 → a.Written d
  parse : ∀ σ, List.Forall₂ (fun u v => u.1 = v.1 ∧ Parse (Atom.value σ) .factor u.2 v.2) units
    (values σ)

theorem text_connectFrom {terms : List Sql.Term} {units : List (Bool × List (Token Atom))}
    (h : (terms.filter (·.sql.text ≠ "")).map (fun term => (term.isOr, term.sql.text)) =
      units.map fun u => (u.1, spelled u.2)) (started : Bool) :
    (Sql.connectFrom "" started terms).text = spelled (phrase started units) := by
  induction terms generalizing units started with
  | nil =>
    have hunits : units = [] := by simpa using h.symm
    rw [hunits]
    rfl
  | cons term terms ih =>
    by_cases htext : term.sql.text = ""
    · have hrest : ¬ decide (term.sql.text ≠ "") := by simpa using htext
      rw [List.filter_cons, if_neg hrest] at h
      rw [Sql.connectFrom, if_pos htext, Fragment.text_append, htext, String.empty_append]
      exact ih h started
    · have hkept : decide (term.sql.text ≠ "") := by simpa using htext
      rw [List.filter_cons, if_pos hkept] at h
      cases units with
      | nil => cases h
      | cons u units =>
        obtain ⟨isOr, ts⟩ := u
        simp only [List.map_cons, List.cons.injEq, Prod.mk.injEq] at h
        obtain ⟨⟨hor, hspelled⟩, hrest⟩ := h
        have hconnector : (if started then if term.isOr then " OR " else " AND " else "") =
            spelled (if started then [if isOr then .or else .and] else []) := by
          rw [hor]
          cases started <;> cases isOr <;> simp [spelled, Token.text]
        rw [Sql.connectFrom, if_neg htext, phrase, spelled_append, spelled_append, ← hconnector,
          ← hspelled, ← ih hrest true]
        simp only [Fragment.text_append, String.append_empty]

namespace IsPhrase

variable {d : Dialect} {terms : List Sql.Term} {tests : List (Test SubSelect)}
  {values : (Test SubSelect → Bool) → List (Bool × Bool)} {units : List (Bool × List (Token Atom))}
  (h : IsPhrase d terms tests values units)

theorem nil : IsPhrase d [] [] (fun _ => []) [] :=
  ⟨rfl, rfl, by simp, fun _ => .nil⟩

include h

/-- A blank term shows nothing. -/
theorem skip {term : Sql.Term} (hterm : term.sql.text = "") :
    IsPhrase d (term :: terms) tests values units where
  terms := by
    rw [List.filter_cons, if_neg (by simpa using hterm)]
    exact h.terms
  tests := h.tests
  written := h.written
  parse := h.parse

/-- A factor stands in front of a phrase as one more unit. -/
theorem cons {term : Sql.Term} (hterm : term.sql.text ≠ "") {own : List (Test SubSelect)}
    {value : (Test SubSelect → Bool) → Option Bool} {ts : List (Token Atom)}
    (hts : IsFactor d term.sql.text own value ts)
    {all : (Test SubSelect → Bool) → List (Bool × Bool)}
    (hall : ∀ σ b, value σ = some b → all σ = (term.isOr, b) :: values σ) :
    IsPhrase d (term :: terms) (own ++ tests) all ((term.isOr, ts) :: units) where
  terms := by
    rw [List.filter_cons, if_pos (by simpa using hterm), List.map_cons, h.terms, List.map_cons,
      hts.spelled]
  tests := by rw [List.flatMap_cons, hts.tests, h.tests]
  written := by
    intro u hu a ha
    rcases List.mem_cons.mp hu with rfl | hu
    · exact hts.written a ha
    · exact h.written u hu a ha
  parse σ := by
    obtain ⟨b, hb, hfactor⟩ := hts.parse σ
    rw [hall σ b hb]
    exact .cons ⟨rfl, hfactor⟩ (h.parse σ)

theorem text_connect : (Sql.connect "" terms).text = spelled (phrase false units) :=
  text_connectFrom h.terms false

end IsPhrase

/-- The dialect writes the condition as a factor of its value, or leaves out an empty group. -/
def Condition.Renders (d : Dialect) (c : Condition SubSelect) (f : Fragment) : Prop :=
  (strip f.text = "" ∧ c.tests d.name = [] ∧ ∀ σ, c.meaning d.name σ = none) ∨
    strip f.text ≠ "" ∧
      ∃ ts, IsFactor d (strip f.text) (c.tests d.name) (fun σ => c.meaning d.name σ) ts

section Rendering

variable {d : Dialect}

theorem starts_openQuote (hd : d ∈ Dialect.builtin) : Starts d.openQuote := by
  simp only [Dialect.builtin, List.mem_cons, List.not_mem_nil, or_false] at hd
  rcases hd with rfl | rfl | rfl | rfl
  · exact ⟨'"', [], by decide, by decide⟩
  · exact ⟨'"', [], by decide, by decide⟩
  · exact ⟨'\x60', [], by decide, by decide⟩
  · exact ⟨'[', [], by decide, by decide⟩

open Sql in
/-- The filter of a statement is the expression of its conditions behind the keyword. -/
theorem wherePart_eq_memberTerms (t : Target) {cs : List (Clause SubSelect)}
    {members : List (Scoped (Condition SubSelect))} (hfrom : anyVisible cs "from" t.engine)
    (hcs : visible cs "where" t.engine = members.map (Scoped.map .condition)) :
    wherePart t cs = memberTerms t.dialect members >>= fun terms =>
      let sql := connect "" terms
      .ok (if sql.text = "" then sql else "WHERE " ++ sql) := by
  have hseen : ∀ m ∈ members, m.appliesTo t.dialect.name := by
    intro m hm
    have hvisible : m.map Body.condition ∈ visible cs "where" t.engine := by
      rw [hcs]
      exact List.mem_map_of_mem hm
    have happlies := (List.mem_filter.mp hvisible).2
    rw [Bool.and_eq_true] at happlies
    exact happlies.2
  have hterms : (members.map (Scoped.map Body.condition)).mapM (clauseTerm t.dialect) =
      memberTerms t.dialect members := by
    clear hcs
    induction members with
    | nil => rfl
    | cons m rest ih =>
      obtain ⟨component, e, c⟩ := m
      have hhere : (e == wildcard || e == t.dialect.name) = true := hseen _ List.mem_cons_self
      have hrest := ih fun m hm => hseen m (List.mem_cons_of_mem _ hm)
      rw [List.map_cons, List.mapM_cons, hrest, memberTerms, if_pos hhere]
      simp only [clauseTerm, Scoped.map, bind_assoc, pure_bind]
  rw [wherePart, if_pos hfrom, hcs, hterms]
  rfl

end Rendering

end PolySql
