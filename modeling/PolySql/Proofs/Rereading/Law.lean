import PolySql.Proofs.Rereading.Sound
import PolySql.Sql.Statement

/-!
Writing undoes reading. Main statement: clauses, joins, queries and options that were read from JSON
are read again, unchanged, from the JSON that they are written as; so what is written is its own
written form, and inputs that are written alike compile alike (`models_reread`).
-/

namespace PolySql

def Join.ofJson (v : Json) : Except ModelError (Join Query) := do
  match ← Read.fieldOf .join v with
  | .join j => return j
  | _ => .error (.notModel "Join")

/-- The fragment that a query compiles to, from the JSON of the query and of the options. -/
def compileJson (d : Dialect) (query options : Json) :
    Except ModelError (Except CompileError Fragment) := do
  let q ← Query.ofJson query
  let o ← Options.ofJson options
  return q.compile ⟨d, o⟩

/-- Models of this sort stand the way from JSON to JSON and back. -/
structure Rereads {α : Type} (read : Json → Except ModelError α) (write : α → Json) : Prop where
  /-- What was read is read from what it is written as. -/
  read_write : ∀ v a, read v = .ok a → read (write a) = .ok a
  /-- What is written is its own written form. -/
  idempotent : ∀ v w, write <$> read v = .ok w → write <$> read w = .ok w
  /-- Inputs that are written alike are read alike. -/
  faithful : ∀ v v', write <$> read v = write <$> read v' → read v = read v'

section Rereads

variable {α : Type} {read : Json → Except ModelError α} {write : α → Json}

theorem Rereads.of_read_write (h : ∀ v a, read v = .ok a → read (write a) = .ok a) :
    Rereads read write where
  read_write := h
  idempotent := by
    intro v w hw
    obtain ⟨a, ha, rfl⟩ := exists_of_map_ok hw
    rw [h v a ha]
    rfl
  faithful := by
    intro v v' heq
    cases ha : read v with
    | error e =>
      cases ha' : read v' with
      | error e' =>
        rw [ha, ha'] at heq
        exact congrArg _ (Except.error.inj heq)
      | ok a' =>
        rw [ha, ha'] at heq
        cases heq
    | ok a =>
      rw [ha] at heq
      obtain ⟨a', ha', hwrite⟩ := exists_of_map_ok heq.symm
      have hread : read (write a') = .ok a' := h v' a' ha'
      rw [hwrite, h v a ha] at hread
      rw [ha', hread]

/-- Models that are known by their place are read again if what is read there reads back. -/
theorem Rereads.of_fieldOf (shape : Read.Shape) (field : α → Field)
    {expect : Field → Except ModelError α} (hexpect : ∀ f a, expect f = .ok a ↔ f = field a)
    (hsound : ∀ v a, Read.fieldOf shape v = .ok (field a) →
      Read.fieldOf shape (write a) = .ok (field a)) :
    Rereads (fun v => Read.fieldOf shape v >>= expect) write := by
  refine .of_read_write fun v a h => ?_
  obtain ⟨f, hf, ha⟩ := exists_of_bind_ok h
  obtain rfl := (hexpect f a).mp ha
  show Read.fieldOf shape (write a) >>= expect = .ok a
  rw [hsound v a hf]
  exact (hexpect _ a).mpr rfl

end Rereads

theorem Clause.rereads : Rereads Clause.ofJson Clause.toJson := by
  refine .of_fieldOf .clause .clause (fun f c => ?_) fun v c h =>
    sound_fieldOf .clause v _ h c rfl
  cases f <;> simp [pure, Except.pure]

theorem Query.rereads : Rereads Query.ofJson Query.toJson := by
  refine .of_fieldOf .query .query (fun f q => ?_) fun v q h =>
    sound_fieldOf .query v _ h q rfl
  cases f <;> simp [pure, Except.pure]

theorem Join.rereads : Rereads Join.ofJson Join.toJson := by
  refine .of_fieldOf .join .join (fun f j => ?_) fun v j h =>
    sound_fieldOf .join v _ h j rfl
  cases f <;> simp [pure, Except.pure]

theorem Options.rereads : Rereads Options.ofJson Options.toJson :=
  .of_read_write fun _ _ _ => rfl

/-- Clauses of every kind, joins, queries and options are read again from what they are written as,
and inputs that are written alike compile to the same fragment or fail alike, in every dialect. -/
theorem models_reread :
    Rereads Clause.ofJson Clause.toJson ∧ Rereads Join.ofJson Join.toJson ∧
      Rereads Query.ofJson Query.toJson ∧ Rereads Options.ofJson Options.toJson ∧
      ∀ query query' options options' : Json,
        Query.toJson <$> Query.ofJson query = Query.toJson <$> Query.ofJson query' →
        Options.toJson <$> Options.ofJson options = Options.toJson <$> Options.ofJson options' →
        ∀ d, compileJson d query options = compileJson d query' options' := by
  refine ⟨Clause.rereads, Join.rereads, Query.rereads, Options.rereads, ?_⟩
  intro query query' options options' hquery hoptions d
  rw [compileJson, compileJson, Query.rereads.faithful _ _ hquery,
    Options.rereads.faithful _ _ hoptions]

/-- A query in lax JSON: a flag and a number as texts, a condition without a kind, defaults left
out. -/
def laxOrders : Json :=
  .obj [("clauses", .arr [
    .obj [("kind", .str "FromClause"), ("table", .str "orders")],
    .obj [("kind", .str "DeepJoinClause"), ("expression", .str "orders.customers"),
      ("source_key_generator", .obj [("$fn", .str "upper")])],
    .obj [("kind", .str "NestedCondition"), ("is_or", .str "Yes"), ("conditions", .arr [
      .obj [("kind", .str "InCondition"), ("column", .str "due"),
        ("values", .arr [.obj [("$raw", .str "CURRENT_DATE")], .int 1])],
      .obj [("component", .str "having")]])],
    .obj [("kind", .str "LimitOffset"), ("limit", .str " 1_000.0 "), ("offset", .bool true)]])]

/-- What that JSON is read as. -/
def orders : Query :=
  .ofBlock ⟨[⟨"from", "*", .table (.named "orders")⟩,
    ⟨"join", "*", .join (.path
      ⟨"orders.customers", .inner, none, none, some Read.upperGenerator, none⟩)⟩,
    ⟨"where", "*", .condition (.group ⟨true, false⟩
      [⟨"where", "*", .test ⟨false, false⟩ (.oneOf "due" [.raw "CURRENT_DATE", .value (.int 1)])⟩,
        ⟨"having", "*", .test ⟨false, false⟩ .base⟩])⟩,
    ⟨"limit", "*", .window ⟨some 1000, some 1⟩⟩], .select, false, none⟩

set_option maxRecDepth 20000 in
theorem laxOrders_reread :
    Query.ofJson laxOrders = .ok orders ∧ Query.ofJson orders.toJson = .ok orders ∧
      orders.toJson ≠ laxOrders := by
  have hread : Query.ofJson laxOrders = .ok orders := rfl
  refine ⟨hread, models_reread.2.2.1.read_write laxOrders orders hread, ?_⟩
  intro h
  have hlength : 4 = 1 := congrArg List.length (Json.obj.inj h)
  exact absurd hlength (by decide)

end PolySql
