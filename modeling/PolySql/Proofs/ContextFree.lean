import PolySql.Proofs.Embedding
import PolySql.Proofs.Shared.Emission

/-!
Nested queries without context. Main statement: a select is written behind whatever is bound as it
is compiled alone, and a statement that renders it contains what it is compiled to.
-/

namespace PolySql

/-- A select without a WITH list is compiled alike wherever it stands. Behind values that are bound
already it is written, or refused, as it is alone, and binds its own values behind them. A statement
that renders it, at any depth, contains it and its values in one block. -/
theorem compile_context_free (t : Target) (n : Query) (hselect : n.block.method = .select)
    (hcte : visible n.block.clauses "cte" t.engine = []) :
    (∀ bs, (n.nested t).select bs = (n.compile t).map fun g => (g.text, bs ++ g.bindings)) ∧
      ∀ (q : Query) (f : Fragment), q.Renders t n → q.compile t = .ok f →
        q.write t [] = .ok (f.text, f.bindings) ∧
          ∃ g pre post, n.compile t = .ok g ∧ f = pre ++ g ++ post := by
  have halone := Query.compile_eq_select hselect hcte
  refine ⟨fun bs => ?_, fun q f hrenders hq => ⟨?_, ?_⟩⟩
  · rw [Query.nested_eq, halone]
    rfl
  · rw [Query.write_eq, hq]
    rfl
  · obtain ⟨g, hg, pre, post, hf⟩ := Query.in_of_renders hrenders hq
    exact ⟨g, pre, post, halone.trans hg, hf⟩

/-- Users who are of age. -/
def adults : Query :=
  .ofBlock ⟨[⟨"from", wildcard, .table (.named "users")⟩,
    ⟨"where", wildcard,
      .condition (.test ⟨false, false⟩ (.compare "age" ">=" (.value (.int 18))))⟩],
    .select, false, some "Adult"⟩

/-- The names of users who are of age, with the users as a derived table. -/
def adultNames : Query :=
  .ofBlock ⟨[⟨"select", wildcard, .column (.named "name")⟩,
    ⟨"from", wildcard, .table (.derived adults none)⟩], .select, false, none⟩

/-- The authors who are of age. -/
def adultAuthors : Clause Query :=
  ⟨"where", wildcard, .condition (.test ⟨false, false⟩ (.oneOfQuery "author" adultNames))⟩

/-- Hides the posts of authors who are of age. -/
def hidePosts : Query :=
  .ofBlock ⟨[⟨"from", wildcard, .table (.named "posts")⟩,
    ⟨"update", wildcard, .insert (.row ["hidden"] [.value (.int 1)])⟩, adultAuthors],
    .change .update, false, none⟩

theorem hidePosts_renders_adults : hidePosts.Renders ⟨.sqlite, {}⟩ adults := by
  have hnames : adultNames.Holds ⟨.sqlite, {}⟩ adults :=
    .table (.table (.derived adults none)) rfl (.head _)
  have hauthors : adultAuthors ∈ visible hidePosts.block.clauses "where" "sqlite" := .head _
  exact ⟨adultNames, .filter .update rfl (by decide) adultAuthors hauthors (.head _),
    .single hnames⟩

set_option maxRecDepth 20000 in
theorem adults_context_free :
    (adults.nested ⟨.sqlite, {}⟩).select [.int 1] =
        .ok ("SELECT * FROM \"users\" WHERE \"age\" >= ?", [.int 1, .int 18]) ∧
      ∃ g pre post : Fragment, g = ⟨"SELECT * FROM \"users\" WHERE \"age\" >= ?", [.int 18]⟩ ∧
        ⟨"UPDATE \"posts\" SET \"hidden\" = ? WHERE \"author\" IN " ++
          "(SELECT \"name\" FROM (SELECT * FROM \"users\" WHERE \"age\" >= ?) AS \"Adult\")",
          [.int 1, .int 18]⟩ = pre ++ g ++ post := by
  obtain ⟨hshared, hcontains⟩ := compile_context_free ⟨.sqlite, {}⟩ adults rfl rfl
  have hadults : adults.compile ⟨.sqlite, {}⟩ =
      .ok ⟨"SELECT * FROM \"users\" WHERE \"age\" >= ?", [.int 18]⟩ := by rfl
  have hposts : hidePosts.compile ⟨.sqlite, {}⟩ =
      .ok ⟨"UPDATE \"posts\" SET \"hidden\" = ? WHERE \"author\" IN " ++
        "(SELECT \"name\" FROM (SELECT * FROM \"users\" WHERE \"age\" >= ?) AS \"Adult\")",
        [.int 1, .int 18]⟩ := by rfl
  obtain ⟨-, g, pre, post, hg, hsplit⟩ := hcontains hidePosts _ hidePosts_renders_adults hposts
  rw [hadults] at hg
  refine ⟨?_, g, pre, post, (Except.ok.inj hg).symm, hsplit⟩
  rw [hshared, hadults]
  rfl

end PolySql
