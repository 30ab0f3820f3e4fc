import PolySql.Proofs.Alike.Query

/-!
Every query is alike to itself, at no cost, where every value may stand for itself.
-/

namespace PolySql

variable {x : Exchange} (hx : ∀ v, x.value v v)

include hx

theorem Bound.alike_self (b : Bound) : b.Alike x 0 b := by
  cases b with
  | value v => exact .value (hx v)
  | raw sql => exact .raw

theorem Verbatim.alike_self (sql : Verbatim) : sql.Alike x 0 sql :=
  .mk (.of_forall fun b _ => b.alike_self hx)

theorem Window.alike_self (w : Window) : w.Alike x w := by
  have hself : ∀ n : Option Int, Option.Rel (fun i j => x.value (.int i) (.int j)) n n := by
    intro n
    cases n with
    | none => exact .none
    | some i => exact .some (hx _)
  exact ⟨hself _, hself _⟩

section Clauses

variable {Q : Type} {r : ℕ → Q → Q → Prop}

theorem Test.alike_self {t : Test Q} (hr : ∀ q ∈ t.nested, r 0 q q) : t.Alike x r 0 t := by
  cases t with
  | base => exact .base
  | verbatim sql => exact .verbatim (sql.alike_self hx)
  | compare column operator value => exact .compare (value.alike_self hx)
  | pattern column operator value caseSensitive => exact .pattern (hx _)
  | datePart column part operator value => exact .datePart (value.alike_self hx)
  | columns first operator second => exact .columns
  | subquery column operator query => exact .subquery (hr _ List.mem_cons_self)
  | oneOf column values => exact .oneOf (.of_forall fun b _ => b.alike_self hx)
  | oneOfQuery column query => exact .oneOfQuery (hr _ List.mem_cons_self)
  | between column lower higher =>
    exact .between (lower.alike_self hx) (higher.alike_self hx) (add_zero 0).le
  | isNull column => exact .isNull
  | nonempty query => exact .nonempty (hr _ List.mem_cons_self)
  | isTrue column value => exact .isTrue

theorem Condition.alike_self {c : Condition Q} (hr : ∀ q ∈ c.nested, r 0 q q) :
    c.Alike x r 0 c := by
  induction c using Condition.induction with
  | test flags t =>
    simp only [Condition.nested] at hr
    exact .test (Test.alike_self hx hr)
  | group flags members ih =>
    simp only [Condition.nested, Condition.mem_nestedMembers] at hr
    refine .group (Condition.Alike x r) id (.of_forall fun c hc => ?_)
    exact .mk (ih c hc fun q hq => hr q ⟨c, hc, hq⟩)

theorem Table.alike_self {t : Table Q} (hr : ∀ q ∈ t.nested, r 0 q q) : t.Alike x r 0 t := by
  cases t with
  | base => exact .base
  | named name => exact .named
  | verbatim sql aliasName => exact .verbatim (sql.alike_self hx)
  | derived query aliasName => exact .derived (hr _ List.mem_cons_self)

theorem JoinClause.alike_self {j : JoinClause Q} (hr : ∀ q ∈ j.nested, r 0 q q) :
    j.Alike x r 0 j := by
  cases j with
  | base => exact .base
  | path j => exact .path
  | explicit j =>
    simp only [JoinClause.nested, List.mem_append, Condition.mem_nestedMembers] at hr
    have htable := Table.alike_self hx fun q hq => hr q (.inl hq)
    refine .explicit htable (.of_forall (k := 0) fun c hc => ?_) (add_zero 0).le
    exact .mk (Condition.alike_self hx fun q hq => hr q (.inr ⟨c, hc, hq⟩))

theorem Body.alike_self {b : Body Q} (hr : ∀ q ∈ b.nested, r 0 q q) : b.Alike x r 0 b := by
  cases b with
  | base => exact .base
  | table t => exact .table (Table.alike_self hx hr)
  | join j => exact .join (JoinClause.alike_self hx hr)
  | column c =>
    cases c with
    | base => exact .column .base
    | named name => exact .column .named
    | verbatim sql => exact .column (.verbatim (sql.alike_self hx))
    | subquery query => exact .column (.subquery (hr _ List.mem_cons_self))
  | order item =>
    cases item with
    | base => exact .order .base
    | column column ascending => exact .order .column
    | verbatim sql => exact .order (.verbatim (sql.alike_self hx))
    | random seed => exact .order .random
  | aggregate a => exact .aggregate
  | insert i =>
    cases i with
    | base => exact .insert .base
    | row columns values => exact .insert (.row (.of_forall fun b _ => b.alike_self hx))
    | rows columns query => exact .insert (.rows (hr _ List.mem_cons_self))
  | window w => exact .window (w.alike_self hx)
  | union u =>
    cases u with
    | base => exact .union .base
    | operand operation all query => exact .union (.operand (hr _ List.mem_cons_self))
    | verbatim sql => exact .union (.verbatim (sql.alike_self hx))
  | lock mode => exact .lock
  | condition c => exact .condition (Condition.alike_self hx hr)

end Clauses

theorem Query.alike_self (q : Query) : q.Alike x 0 q := by
  induction q using Query.induction with
  | step b nested =>
    simp only [Block.nested, List.mem_flatMap] at nested
    refine .mk (Query.Alike x) id ⟨.of_forall fun c hc => ?_, rfl, rfl, rfl⟩
    exact .mk (Body.alike_self hx fun q hq => nested q ⟨c, hc, hq⟩)

end PolySql
