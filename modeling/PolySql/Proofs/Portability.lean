import PolySql.Proofs.Portable.Statement
import PolySql.Proofs.Quoting

/-!
The dialects agree on what is bound. Main statement: a query that no clause of is scoped to an
engine binds the same values in every dialect, or is refused by all of them; in one of them the
number of rows to take may stand elsewhere.
-/

namespace PolySql

/-- The same failure, where only the quotes in verbatim SQL may differ. -/
inductive SameFailure : CompileError → CompileError → Prop
  | same (e : CompileError) : SameFailure e e
  | bindingCount (s s' : String) (n : Nat) : SameFailure (.bindingCount s n) (.bindingCount s' n)

section Builtin

variable {d d' : Dialect} (hd : d ∈ Dialect.builtin) (hd' : d' ∈ Dialect.builtin)

include hd hd'

/-- For dialects that come with the library, only windows are to be compared. -/
theorem portable_of_builtin (o : Options) {r : List Json → List Json → Prop} {paged : Window → Prop}
    (hsame : ∀ vs, r vs vs)
    (happend : ∀ {vs vs' ws ws'}, r vs vs' → r ws ws' → r (vs ++ ws) (vs' ++ ws'))
    (hwindow : ∀ {w vs vs'}, paged w → r vs vs' → r (d.windowed w vs) (d'.windowed w vs')) :
    Portable ⟨d, o⟩ ⟨d', o⟩ SameFailure r paged where
  options := rfl
  wildcard := by
    have hname : ∀ d ∈ Dialect.builtin, (wildcard == d.name) = false := by decide
    exact (hname d hd).trans (hname d' hd').symm
  marks s := Dialect.markCount_quoteMarkers (Dialect.unmarked_of_mem_builtin hd)
    (Dialect.unmarked_of_mem_builtin hd') s
  miscount s n := .bindingCount _ _ n
  refused e _ := .same e
  same := hsame
  append := happend
  window := hwindow

theorem portable_perm (o : Options) :
    Portable ⟨d, o⟩ ⟨d', o⟩ SameFailure List.Perm fun _ => True :=
  portable_of_builtin hd hd' o .refl .append fun _ h =>
    ((d.windowed_perm _ _).trans ((h.append_right _).append_right _)).trans
      (d'.windowed_perm _ _).symm

theorem portable_eq (o : Options) (paged : Window → Prop)
    (hwindow : ∀ w vs, paged w → d.windowed w vs = d'.windowed w vs) :
    Portable ⟨d, o⟩ ⟨d', o⟩ SameFailure Eq paged := by
  refine portable_of_builtin hd hd' o (fun _ => rfl) (fun h h' => by rw [h, h']) ?_
  rintro w vs _ hw rfl
  exact hwindow w vs hw

end Builtin

/-- A query without clauses for single engines is compiled in all dialects or in none, where it is
refused for the same reason. It binds the same values, in the same order but where T-SQL takes rows
in front. -/
theorem bindings_portable (o : Options) (q : Query) (hq : ∀ engine ∈ q.engines, engine = wildcard) :
    ∀ d ∈ Dialect.builtin, ∀ d' ∈ Dialect.builtin,
      ((∃ f, q.compile ⟨d, o⟩ = .ok f) ↔ ∃ f, q.compile ⟨d', o⟩ = .ok f) ∧
      (∀ e e', q.compile ⟨d, o⟩ = .error e → q.compile ⟨d', o⟩ = .error e' → SameFailure e e') ∧
      ∀ f f', q.compile ⟨d, o⟩ = .ok f → q.compile ⟨d', o⟩ = .ok f' →
        f.bindings.Perm f'.bindings ∧
        ((d ≠ .sqlServer ∧ d' ≠ .sqlServer ∨ ∀ w ∈ q.windows, w.take? = none) →
          f.bindings = f'.bindings) := by
  intro d hd d' hd'
  have hperm := portable_perm hd hd' o
  have hengines : ∀ engine ∈ q.engines, SameScope ⟨d, o⟩ ⟨d', o⟩ engine := by
    intro engine hengine
    rw [hq engine hengine]
    exact hperm.wildcard
  have hruns := hperm.compile hengines fun _ _ => trivial
  refine ⟨hruns.succeeds_iff, fun e e' he he' => ?_, fun f f' hf hf' => ⟨?_, ?_⟩⟩
  · rw [he, he'] at hruns
    exact hruns.of_error
  · rw [hf, hf'] at hruns
    exact hruns.of_ok
  · have hflavor : ∀ d ∈ Dialect.builtin, d ≠ .sqlServer → d.flavor ≠ .sqlServer := by decide
    rintro (⟨hother, hother'⟩ | htake)
    · have hlaw := portable_eq hd hd' o (fun _ => True) fun w vs _ => by
        rw [Dialect.windowed_of_ne (hflavor d hd hother),
          Dialect.windowed_of_ne (hflavor d' hd' hother')]
      have hequal := hlaw.compile hengines fun _ _ => trivial
      rw [hf, hf'] at hequal
      exact hequal.of_ok
    · have hlaw := portable_eq hd hd' o (·.take? = none) fun w vs hw => by
        rw [Dialect.windowed_of_take?_eq_none d hw, Dialect.windowed_of_take?_eq_none d' hw]
      have hequal := hlaw.compile hengines htake
      rw [hf, hf'] at hequal
      exact hequal.of_ok

/-- Two posts of a kind. -/
def twoPosts : Query :=
  .ofBlock ⟨[⟨"from", wildcard, .table (.named "Posts")⟩,
    ⟨"where", wildcard, .condition (.test ⟨false, false⟩
      (.compare "Kind" "=" (.value (.str "news"))))⟩,
    ⟨"limit", wildcard, .window ⟨some 2, none⟩⟩], .select, false, none⟩

set_option maxRecDepth 20000 in
theorem twoPosts_bindings :
    (∀ engine ∈ twoPosts.engines, engine = wildcard) ∧
      ∃ f f', twoPosts.compile ⟨.sqlite, {}⟩ = .ok f ∧ twoPosts.compile ⟨.sqlServer, {}⟩ = .ok f' ∧
        f.bindings = [.str "news", .int 2] ∧ f'.bindings = [.int 2, .str "news"] ∧
        f.bindings.Perm f'.bindings := by
  have hengines : ∀ engine ∈ twoPosts.engines, engine = wildcard := by decide
  have hsqlite : twoPosts.compile ⟨.sqlite, {}⟩ =
      .ok ⟨"SELECT * FROM \"Posts\" WHERE \"Kind\" = ? LIMIT ?", [.str "news", .int 2]⟩ := by rfl
  have hsqlServer : twoPosts.compile ⟨.sqlServer, {}⟩ =
      .ok ⟨"SELECT TOP (?) * FROM [Posts] WHERE [Kind] = ?", [.int 2, .str "news"]⟩ := by rfl
  obtain ⟨-, -, hsame⟩ := bindings_portable {} twoPosts hengines .sqlite (by decide) .sqlServer
    (by decide)
  exact ⟨hengines, _, _, hsqlite, hsqlServer, rfl, rfl, (hsame _ _ hsqlite hsqlServer).1⟩

end PolySql
