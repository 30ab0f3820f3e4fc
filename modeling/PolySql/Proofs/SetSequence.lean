import PolySql.Proofs.SetOperation
import PolySql.Query.Basic
import PolySql.Query.Lookup

/-!
Queries of tables with set operations, and the sequences of bodies that they are written as. Main
statement: from left to right a sequence gives the rows that its query stands for, as long as the
operations of every operand regroup with the one in front of it.
-/

namespace PolySql

/-- A select of all rows of a table, or of all that differ. -/
structure TableBody where
  isDistinct : Bool
  table : String
  deriving DecidableEq

/-- Table bodies with a set operation in front of every one but the first. -/
structure SetSequence where
  first : TableBody
  rest : List (SetOperator × TableBody)
  deriving DecidableEq

namespace SetSequence

def operators (s : SetSequence) : List SetOperator := s.rest.map Prod.fst

def bodies (s : SetSequence) : List TableBody := s.first :: s.rest.map Prod.snd

/-- The rows that result from left to right. -/
def evaluate {Row : Type} [DecidableEq Row] (rows : TableBody → Multiset Row) (s : SetSequence) :
    Multiset Row :=
  SetOperator.combineAll (rows s.first) (s.rest.map fun step => (step.1, rows step.2))

end SetSequence

section Block

variable {R : Type} (engine : String)

/-- The operation and the operand of a clause. -/
def operand? (c : Clause R) : Option (SetOperator × R) :=
  match c.item with
  | .union (.operand operation all query) => some (⟨operation, all⟩, query)
  | _ => none

namespace Block

variable (b : Block R)

/-- What a block selects besides its set operations. -/
def tableBody : TableBody :=
  match effectiveItem b.clauses "from" engine with
  | some (.table (.named table)) => ⟨b.isDistinct, table⟩
  | _ => ⟨b.isDistinct, ""⟩

def operands : List (SetOperator × R) := (visible b.clauses "union" engine).filterMap operand?

/-- All that the engine sees of the block is a table and set operations. -/
structure IsCombination : Prop where
  table : ∃ table, effectiveItem b.clauses "from" engine = some (.table (.named table))
  clauses : ∀ c ∈ b.clauses, c.appliesTo engine →
    c.component = "from" ∧ (∃ table, c.item = .table (.named table)) ∨
      c.component = "union" ∧ (operand? c).isSome

variable {b} {engine} {S : Type} (f : R → S)

theorem operand?_map (c : Clause R) :
    operand? (c.map (Body.map f)) = (operand? c).map fun o => (o.1, f o.2) := by
  obtain ⟨component, engine, b⟩ := c
  cases b with
  | union u => cases u <;> rfl
  | _ => rfl

theorem operands_map :
    (b.map f).operands engine = (b.operands engine).map fun o => (o.1, f o.2) := by
  simp only [operands, Block.map, visible_map, List.filterMap_map, List.map_filterMap,
    Function.comp_def, operand?_map]

theorem tableBody_map : (b.map f).tableBody engine = b.tableBody engine := by
  simp only [tableBody, Block.map, effectiveItem_map]
  cases effectiveItem b.clauses "from" engine with
  | none => rfl
  | some body =>
    cases body with
    | table a => cases a <;> rfl
    | _ => rfl

end Block

end Block

section Query

variable (engine : String)

/-- The steps of an operation whose operand has steps of its own. -/
def SetSequence.behind (o : SetOperator × SetSequence) : List (SetOperator × TableBody) :=
  (o.1, o.2.first) :: o.2.rest

namespace Query

/-- The bodies of a query in the order of its text. -/
def sequence : Query → SetSequence :=
  Query.fold fun b => ⟨b.tableBody engine, (b.operands engine).flatMap SetSequence.behind⟩

/-- The rows that a query stands for: its body, combined from left to right with its operands, each
of which is taken as a whole. -/
def meaning {Row : Type} [DecidableEq Row] (rows : TableBody → Multiset Row) :
    Query → Multiset Row :=
  Query.fold fun b => SetOperator.combineAll (rows (b.tableBody engine)) (b.operands engine)

/-- A select of a table with set operations whose operands are such selects again. -/
inductive Combines : Query → Prop
  | intro {q : Query} (hblock : q.block.IsCombination engine)
      (hoperands : ∀ o ∈ q.block.operands engine, Combines o.2) : Combines q

/-- The operations of every operand, in the order of its text, regroup with the one in front. -/
inductive Regroups : Query → Prop
  | intro {q : Query}
      (hoperators : ∀ o ∈ q.block.operands engine, o.1.Regroups (o.2.sequence engine).operators)
      (hoperands : ∀ o ∈ q.block.operands engine, Regroups o.2) : Regroups q

variable {engine}

theorem sequence_eq (q : Query) :
    q.sequence engine = ⟨q.block.tableBody engine, (q.block.operands engine).flatMap fun o =>
      SetSequence.behind (o.1, o.2.sequence engine)⟩ := by
  obtain ⟨b⟩ := q
  rw [sequence, fold_ofBlock, Block.tableBody_map, Block.operands_map, List.flatMap_map]
  rfl

theorem meaning_eq {Row : Type} [DecidableEq Row] (rows : TableBody → Multiset Row) (q : Query) :
    q.meaning engine rows = SetOperator.combineAll (rows (q.block.tableBody engine))
      ((q.block.operands engine).map fun o => (o.1, o.2.meaning engine rows)) := by
  obtain ⟨b⟩ := q
  rw [meaning, fold_ofBlock, Block.tableBody_map, Block.operands_map]
  rfl

end Query

end Query

section Meaning

variable {engine : String} {Row : Type} [DecidableEq Row] (rows : TableBody → Multiset Row)

/-- An operand that regroups may be written as it is. -/
theorem SetSequence.combineAll_behind {o : SetOperator} {s : SetSequence}
    (h : o.Regroups s.operators) (m : Multiset Row) :
    SetOperator.combineAll m ((behind (o, s)).map fun step => (step.1, rows step.2)) =
      o.combine m (s.evaluate rows) := by
  have hregroup := SetOperator.regroups_iff.mp h Row m (rows s.first)
    (s.rest.map fun step => (step.1, rows step.2)) (by rw [List.map_map]; rfl)
  exact hregroup.symm

theorem Query.combineAll_operands {os : List (SetOperator × Query)}
    (hregroup : ∀ o ∈ os, o.1.Regroups (o.2.sequence engine).operators)
    (hmeaning : ∀ o ∈ os, (o.2.sequence engine).evaluate rows = o.2.meaning engine rows)
    (m : Multiset Row) :
    SetOperator.combineAll m
        ((os.flatMap fun o => SetSequence.behind (o.1, o.2.sequence engine)).map
          fun step => (step.1, rows step.2)) =
      SetOperator.combineAll m (os.map fun o => (o.1, o.2.meaning engine rows)) := by
  induction os generalizing m with
  | nil => rfl
  | cons o os ih =>
    obtain ⟨ho, hos⟩ := List.forall_mem_cons.mp hregroup
    obtain ⟨hrows, hothers⟩ := List.forall_mem_cons.mp hmeaning
    rw [List.flatMap_cons, List.map_append, SetOperator.combineAll_append,
      SetSequence.combineAll_behind rows ho, hrows, ih hos hothers]
    rfl

theorem Query.evaluate_sequence {q : Query} (hq : q.Regroups engine) :
    (q.sequence engine).evaluate rows = q.meaning engine rows := by
  induction hq with
  | intro hoperators _ ih =>
    rw [sequence_eq, meaning_eq]
    exact combineAll_operands rows hoperators ih _

end Meaning

section Exact

variable {engine : String} {q : Query} {o : SetOperator × Query}

/-- Items that are all different can be mapped to any items. -/
theorem exists_map_eq {α β : Type} [DecidableEq α] [Inhabited β] {as : List α} {bs : List β}
    (has : as.Nodup) (hlength : as.length = bs.length) : ∃ f : α → β, as.map f = bs := by
  induction as generalizing bs with
  | nil => exact ⟨fun _ => default, (List.length_eq_zero_iff.mp hlength.symm).symm⟩
  | cons a as ih =>
    obtain ⟨ha, has⟩ := List.nodup_cons.mp has
    obtain ⟨b, bs, rfl⟩ := List.exists_cons_of_length_eq_add_one hlength.symm
    obtain ⟨f, hf⟩ := ih has (Nat.succ.inj hlength)
    refine ⟨Function.update f a b, ?_⟩
    have hothers : as.map (Function.update f a b) = as.map f := by
      refine List.map_congr_left fun x hx => Function.update_of_ne ?_ _ _
      rintro rfl
      exact ha hx
    rw [List.map_cons, Function.update_self, hothers, hf]

/-- Conversely, over tables that are all different, a sequence gives the rows of a query with one
operand only if that operand regroups. -/
theorem Query.regroups_of_evaluate (hone : q.block.operands engine = [o])
    (hoperand : o.2.Regroups engine) (hbodies : (q.sequence engine).bodies.Nodup)
    (h : ∀ (Row : Type) [DecidableEq Row] (rows : TableBody → Multiset Row),
      (q.sequence engine).evaluate rows = q.meaning engine rows) : q.Regroups engine := by
  have hsequence : q.sequence engine =
      ⟨q.block.tableBody engine, SetSequence.behind (o.1, o.2.sequence engine)⟩ := by
    rw [sequence_eq, hone, List.flatMap_singleton]
  have hoperators : o.1.Regroups (o.2.sequence engine).operators := by
    refine SetOperator.regroups_iff.mpr fun Row _ a b steps hsteps => ?_
    have hlength : (q.sequence engine).bodies.length = (a :: b :: steps.map Prod.snd).length := by
      have hsame := congrArg List.length hsteps
      simp only [SetSequence.operators, List.length_map] at hsame
      simp [SetSequence.bodies, hsequence, SetSequence.behind, hsame]
    obtain ⟨rows, hrows⟩ := exists_map_eq hbodies hlength
    simp only [SetSequence.bodies, hsequence, SetSequence.behind, List.map_cons, List.map_map,
      List.cons.injEq] at hrows
    obtain ⟨ha, hb, hrest⟩ := hrows
    have hrest : (o.2.sequence engine).rest.map (fun step => (step.1, rows step.2)) = steps := by
      rw [List.zip_of_prod hsteps hrest.symm, SetSequence.operators, List.zip_map']
      rfl
    have hsame := h Row rows
    rw [hsequence, meaning_eq, hone, SetSequence.evaluate] at hsame
    simp only [SetSequence.behind, List.map_cons, List.map_nil, ← evaluate_sequence rows hoperand,
      SetOperator.combineAll, SetSequence.evaluate, ha, hb, hrest] at hsame
    exact hsame.symm
  refine .intro ?_ ?_ <;> rw [hone]
  · exact List.forall_mem_singleton.mpr hoperators
  · exact List.forall_mem_singleton.mpr hoperand

end Exact

end PolySql
