import PolySql.Proofs.Alike.Run
import PolySql.Query.Induction
import PolySql.Query.Kind
import PolySql.Sql.Condition

/-!
Queries that are alike: they differ at most in what stands in their bound positions. `Alike x n`
allows the exchanges of `x`, at most `n` of which put SQL text in place of a value.
-/

namespace PolySql

/-- What may stand in the second query where the first has a value to bind. -/
structure Exchange where
  value : Json → Json → Prop
  fill : Json → String → Prop

/-- The text that a pattern binds. -/
def patternText (operator value : String) (caseSensitive : Bool) : String :=
  let text := (Sql.likePattern? operator value).getD value
  if caseSensitive then text else Text.lower text

inductive Bound.Alike (x : Exchange) (n : ℕ) : Bound → Bound → Prop
  | value {v v' : Json} (h : x.value v v') : Alike x n (.value v) (.value v')
  | raw {s : String} : Alike x n (.raw s) (.raw s)
  | fill {v : Json} {s : String} (h : x.fill v s) (hn : 1 ≤ n) : Alike x n (.value v) (.raw s)

inductive Verbatim.Alike (x : Exchange) (n : ℕ) : Verbatim → Verbatim → Prop
  | mk {expression : String} {bs bs' : List Bound} (h : Along (Bound.Alike x) n bs bs') :
    Alike x n ⟨expression, bs⟩ ⟨expression, bs'⟩

/-- Windows with the same of their two numbers, each with a value in the other's place. -/
structure Window.Alike (x : Exchange) (w w' : Window) : Prop where
  take : Option.Rel (fun i j => x.value (.int i) (.int j)) w.take? w'.take?
  skip : Option.Rel (fun i j => x.value (.int i) (.int j)) w.skip? w'.skip?

/-- Clauses in the same scope. -/
inductive Scoped.Alike {M α β : Type} (r : M → α → β → Prop) (m : M) : Scoped α → Scoped β → Prop
  | mk {component engine : String} {a : α} {b : β} (h : r m a b) :
    Alike r m ⟨component, engine, a⟩ ⟨component, engine, b⟩

section Clauses

variable {Q R : Type} (x : Exchange) (r : ℕ → Q → R → Prop) (n : ℕ)

inductive Test.Alike : Test Q → Test R → Prop
  | base : Alike .base .base
  | verbatim {sql sql' : Verbatim} (h : sql.Alike x n sql') : Alike (.verbatim sql) (.verbatim sql')
  | compare {column operator : String} {b b' : Bound} (h : b.Alike x n b') :
    Alike (.compare column operator b) (.compare column operator b')
  | pattern {column operator v v' : String} {caseSensitive : Bool}
    (h : x.value (.str (patternText operator v caseSensitive))
      (.str (patternText operator v' caseSensitive))) :
    Alike (.pattern column operator v caseSensitive) (.pattern column operator v' caseSensitive)
  | datePart {column part operator : String} {b b' : Bound} (h : b.Alike x n b') :
    Alike (.datePart column part operator b) (.datePart column part operator b')
  | columns {first operator second : String} :
    Alike (.columns first operator second) (.columns first operator second)
  | subquery {column operator : String} {q : Q} {q' : R} (h : r n q q') :
    Alike (.subquery column operator q) (.subquery column operator q')
  | oneOf {column : String} {bs bs' : List Bound} (h : Along (Bound.Alike x) n bs bs') :
    Alike (.oneOf column bs) (.oneOf column bs')
  | oneOfQuery {column : String} {q : Q} {q' : R} (h : r n q q') :
    Alike (.oneOfQuery column q) (.oneOfQuery column q')
  | between {column : String} {k m : ℕ} {a a' b b' : Bound} (h : a.Alike x k a')
    (h' : b.Alike x m b') (le : k + m ≤ n) : Alike (.between column a b) (.between column a' b')
  | isNull {column : String} : Alike (.isNull column) (.isNull column)
  | nonempty {q : Q} {q' : R} (h : r n q q') : Alike (.nonempty q) (.nonempty q')
  | isTrue {column : String} {b : Bool} : Alike (.isTrue column b) (.isTrue column b)

end Clauses

/-- In a group, `ρ` is the relation itself among the members. -/
inductive Condition.Alike {Q R : Type} (x : Exchange) (r : ℕ → Q → R → Prop) :
    ℕ → Condition Q → Condition R → Prop
  | test {n : ℕ} {flags : Flags} {t : Test Q} {t' : Test R} (h : t.Alike x r n t') :
    Alike x r n (.test flags t) (.test flags t')
  | group {n : ℕ} {flags : Flags} {members : List (Scoped (Condition Q))}
    {members' : List (Scoped (Condition R))} (ρ : ℕ → Condition Q → Condition R → Prop)
    (hρ : ∀ {m c c'}, ρ m c c' → Alike x r m c c')
    (h : Along (Scoped.Alike ρ) n members members') :
    Alike x r n (.group flags members) (.group flags members')

section Clauses

variable {Q R : Type} (x : Exchange) (r : ℕ → Q → R → Prop) (n : ℕ)

inductive Table.Alike : Table Q → Table R → Prop
  | base : Alike .base .base
  | named {name : String} : Alike (.named name) (.named name)
  | verbatim {sql sql' : Verbatim} {aliasName : Option String} (h : sql.Alike x n sql') :
    Alike (.verbatim sql aliasName) (.verbatim sql' aliasName)
  | derived {q : Q} {q' : R} {aliasName : Option String} (h : r n q q') :
    Alike (.derived q aliasName) (.derived q' aliasName)

inductive JoinClause.Alike : JoinClause Q → JoinClause R → Prop
  | base : Alike .base .base
  | explicit {k m : ℕ} {type : JoinType} {component engine : String} {t : Table Q} {t' : Table R}
    {conditions : List (Scoped (Condition Q))} {conditions' : List (Scoped (Condition R))}
    (table : t.Alike x r k t')
    (on : Along (Scoped.Alike (Condition.Alike x r)) m conditions conditions') (le : k + m ≤ n) :
    Alike (.explicit ⟨type, ⟨component, engine, t⟩, conditions⟩)
      (.explicit ⟨type, ⟨component, engine, t'⟩, conditions'⟩)
  | path {j : PathJoin} : Alike (.path j) (.path j)

inductive Column.Alike : Column Q → Column R → Prop
  | base : Alike .base .base
  | named {name : String} : Alike (.named name) (.named name)
  | verbatim {sql sql' : Verbatim} (h : sql.Alike x n sql') : Alike (.verbatim sql) (.verbatim sql')
  | subquery {q : Q} {q' : R} (h : r n q q') : Alike (.subquery q) (.subquery q')

inductive OrderItem.Alike : OrderItem → OrderItem → Prop
  | base : Alike .base .base
  | column {column : String} {ascending : Bool} :
    Alike (.column column ascending) (.column column ascending)
  | verbatim {sql sql' : Verbatim} (h : sql.Alike x n sql') : Alike (.verbatim sql) (.verbatim sql')
  | random {seed : String} : Alike (.random seed) (.random seed)

inductive Insert.Alike : Insert Q → Insert R → Prop
  | base : Alike .base .base
  | row {columns : List String} {bs bs' : List Bound} (h : Along (Bound.Alike x) n bs bs') :
    Alike (.row columns bs) (.row columns bs')
  | rows {columns : List String} {q : Q} {q' : R} (h : r n q q') :
    Alike (.rows columns q) (.rows columns q')

inductive Union.Alike : Union Q → Union R → Prop
  | base : Alike .base .base
  | operand {operation : SetOperation} {all : Bool} {q : Q} {q' : R} (h : r n q q') :
    Alike (.operand operation all q) (.operand operation all q')
  | verbatim {sql sql' : Verbatim} (h : sql.Alike x n sql') : Alike (.verbatim sql) (.verbatim sql')

inductive Body.Alike : Body Q → Body R → Prop
  | base : Alike .base .base
  | table {t : Table Q} {t' : Table R} (h : t.Alike x r n t') : Alike (.table t) (.table t')
  | join {j : JoinClause Q} {j' : JoinClause R} (h : j.Alike x r n j') : Alike (.join j) (.join j')
  | column {c : Column Q} {c' : Column R} (h : c.Alike x r n c') : Alike (.column c) (.column c')
  | order {i i' : OrderItem} (h : i.Alike x n i') : Alike (.order i) (.order i')
  | aggregate {a : Aggregate} : Alike (.aggregate a) (.aggregate a)
  | insert {i : Insert Q} {i' : Insert R} (h : i.Alike x r n i') : Alike (.insert i) (.insert i')
  | window {w w' : Window} (h : w.Alike x w') : Alike (.window w) (.window w')
  | union {u : Union Q} {u' : Union R} (h : u.Alike x r n u') : Alike (.union u) (.union u')
  | lock {mode : LockMode} : Alike (.lock mode) (.lock mode)
  | condition {c : Condition Q} {c' : Condition R} (h : c.Alike x r n c') :
    Alike (.condition c) (.condition c')

structure Block.Alike (b : Block Q) (b' : Block R) : Prop where
  clauses : Along (Scoped.Alike (Body.Alike x r)) n b.clauses b'.clauses
  method : b.method = b'.method
  isDistinct : b.isDistinct = b'.isDistinct
  aliasName : b.aliasName = b'.aliasName

end Clauses

/-- Here `ρ` is the relation itself among the nested queries. -/
inductive Query.Alike (x : Exchange) : ℕ → Query → Query → Prop
  | mk {n : ℕ} {b b' : Block Query} (ρ : ℕ → Query → Query → Prop)
    (hρ : ∀ {m q q'}, ρ m q q' → Alike x m q q') (h : b.Alike x ρ n b') :
    Alike x n (.ofBlock b) (.ofBlock b')

namespace Scoped.Alike

variable {M α β : Type} {r : M → α → β → Prop} {m : M} {a : Scoped α} {b : Scoped β}

theorem of_eq (hc : a.component = b.component) (he : a.engine = b.engine)
    (h : r m a.item b.item) : Scoped.Alike r m a b := by
  cases a
  cases b
  subst hc
  subst he
  exact mk h

theorem engine_eq (h : Scoped.Alike r m a b) : a.engine = b.engine := by
  cases h with
  | mk h => rfl

theorem item (h : Scoped.Alike r m a b) : r m a.item b.item := by
  cases h with
  | mk h => exact h

end Scoped.Alike

theorem Along.and_item {M α β : Type} [AddCommMonoid M] [PartialOrder M] {r : M → α → β → Prop}
    {n : M} {as : List (Scoped α)} {bs : List (Scoped β)} {P : α → Prop}
    (h : Along (Scoped.Alike r) n as bs) (hP : ∀ a ∈ as, P a.item) :
    Along (Scoped.Alike fun m a b => r m a b ∧ P a) n as bs := by
  refine h.imp fun m a b ha hab => ?_
  cases hab with
  | mk hab => exact .mk ⟨hab, hP _ ha⟩

section Kind

variable {Q R : Type} {x : Exchange} {r : ℕ → Q → R → Prop} {n : ℕ}

theorem Condition.Alike.flags_eq {c : Condition Q} {c' : Condition R} (h : c.Alike x r n c') :
    c.flags = c'.flags := by
  cases h <;> rfl

theorem Condition.Alike.kind_eq {c : Condition Q} {c' : Condition R} (h : c.Alike x r n c') :
    c.kind = c'.kind := by
  cases h with
  | test h => cases h <;> rfl
  | group ρ hρ h => rfl

theorem Body.Alike.kind_eq {b : Body Q} {b' : Body R} (h : b.Alike x r n b') :
    b.kind = b'.kind := by
  cases h with
  | condition h => exact h.kind_eq
  | table h | join h | column h | order h | insert h | union h => cases h <;> rfl
  | _ => rfl

end Kind

section Map

variable {Q R Q' R' : Type} {x : Exchange} {r : ℕ → Q → R → Prop} {s : ℕ → Q' → R' → Prop}
  {n : ℕ} {f : Q → Q'} {g : R → R'}

theorem Test.Alike.map {t : Test Q} {t' : Test R} (h : t.Alike x r n t')
    (hf : ∀ m q q', q ∈ t.nested → r m q q' → s m (f q) (g q')) :
    (t.map f).Alike x s n (t'.map g) := by
  cases h with
  | verbatim h => exact .verbatim h
  | compare h => exact .compare h
  | pattern h => exact .pattern h
  | datePart h => exact .datePart h
  | subquery h => exact .subquery (hf _ _ _ List.mem_cons_self h)
  | oneOf h => exact .oneOf h
  | oneOfQuery h => exact .oneOfQuery (hf _ _ _ List.mem_cons_self h)
  | between h h' le => exact .between h h' le
  | nonempty h => exact .nonempty (hf _ _ _ List.mem_cons_self h)
  | _ => constructor

theorem Scoped.Alike.map {M α β γ δ : Type} {r : M → α → β → Prop} {s : M → γ → δ → Prop} {m : M}
    {f : α → γ} {g : β → δ} {a : Scoped α} {b : Scoped β} (h : Scoped.Alike r m a b)
    (hf : r m a.item b.item → s m (f a.item) (g b.item)) :
    Scoped.Alike s m (a.map f) (b.map g) := by
  cases h with
  | mk h => exact .mk (hf h)

theorem Condition.Alike.map {c : Condition Q} {c' : Condition R} (h : c.Alike x r n c')
    (hf : ∀ m q q', q ∈ c.nested → r m q q' → s m (f q) (g q')) :
    (c.map f).Alike x s n (c'.map g) := by
  induction h with
  | test h =>
    simp only [Condition.nested] at hf
    simp only [Condition.map]
    exact .test (h.map hf)
  | group ρ hρ h ih =>
    simp only [Condition.nested, Condition.mem_nestedMembers] at hf
    simp only [Condition.map, Condition.mapMembers_eq]
    refine .group (Condition.Alike x s) id ?_
    apply h.map
    intro m c c' hc halike
    exact halike.map fun h => ih h fun m q q' hq => hf m q q' ⟨c, hc, hq⟩

theorem Table.Alike.map {t : Table Q} {t' : Table R} (h : t.Alike x r n t')
    (hf : ∀ m q q', q ∈ t.nested → r m q q' → s m (f q) (g q')) :
    (t.map f).Alike x s n (t'.map g) := by
  cases h with
  | verbatim h => exact .verbatim h
  | derived h => exact .derived (hf _ _ _ List.mem_cons_self h)
  | _ => constructor

theorem JoinClause.Alike.map {j : JoinClause Q} {j' : JoinClause R} (h : j.Alike x r n j')
    (hf : ∀ m q q', q ∈ j.nested → r m q q' → s m (f q) (g q')) :
    (j.map f).Alike x s n (j'.map g) := by
  cases h with
  | explicit table on le =>
    simp only [JoinClause.nested, List.mem_append, Condition.mem_nestedMembers] at hf
    have htable := table.map fun m q q' hq => hf m q q' (.inl hq)
    refine .explicit htable ?_ le
    apply on.map
    intro m c c' hc halike
    exact halike.map fun h => h.map fun m q q' hq => hf m q q' (.inr ⟨c, hc, hq⟩)
  | _ => constructor

theorem Column.Alike.map {c : Column Q} {c' : Column R} (h : c.Alike x r n c')
    (hf : ∀ m q q', q ∈ c.nested → r m q q' → s m (f q) (g q')) :
    (c.map f).Alike x s n (c'.map g) := by
  cases h with
  | verbatim h => exact .verbatim h
  | subquery h => exact .subquery (hf _ _ _ List.mem_cons_self h)
  | _ => constructor

theorem Insert.Alike.map {i : Insert Q} {i' : Insert R} (h : i.Alike x r n i')
    (hf : ∀ m q q', q ∈ i.nested → r m q q' → s m (f q) (g q')) :
    (i.map f).Alike x s n (i'.map g) := by
  cases h with
  | base => exact .base
  | row h => exact .row h
  | rows h => exact .rows (hf _ _ _ List.mem_cons_self h)

theorem Union.Alike.map {u : Union Q} {u' : Union R} (h : u.Alike x r n u')
    (hf : ∀ m q q', q ∈ u.nested → r m q q' → s m (f q) (g q')) :
    (u.map f).Alike x s n (u'.map g) := by
  cases h with
  | base => exact .base
  | operand h => exact .operand (hf _ _ _ List.mem_cons_self h)
  | verbatim h => exact .verbatim h

theorem Body.Alike.map {b : Body Q} {b' : Body R} (h : b.Alike x r n b')
    (hf : ∀ m q q', q ∈ b.nested → r m q q' → s m (f q) (g q')) :
    (b.map f).Alike x s n (b'.map g) := by
  cases h with
  | table h => exact .table (h.map hf)
  | join h => exact .join (h.map hf)
  | column h => exact .column (h.map hf)
  | order h => exact .order h
  | insert h => exact .insert (h.map hf)
  | window h => exact .window h
  | union h => exact .union (h.map hf)
  | condition h => exact .condition (h.map hf)
  | _ => constructor

/-- Alike queries nested in alike blocks may be replaced by whatever they are taken to. -/
theorem Block.Alike.map {b : Block Q} {b' : Block R} (h : b.Alike x r n b')
    (hf : ∀ m q q', q ∈ b.nested → r m q q' → s m (f q) (g q')) :
    (b.map f).Alike x s n (b'.map g) := by
  simp only [Block.nested, List.mem_flatMap] at hf
  refine ⟨?_, h.method, h.isDistinct, h.aliasName⟩
  apply h.clauses.map
  intro m c c' hc halike
  exact halike.map fun h => h.map fun m q q' hq => hf m q q' ⟨c, hc, hq⟩

end Map

end PolySql
