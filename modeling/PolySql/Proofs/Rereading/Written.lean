import PolySql.Model.Write
import PolySql.Proofs.Rereading.Form

/-!
Written models, read again. Main statements: a model whose bound positions, generators and nested
models each read back as themselves does so as a whole (`Clause.readsBack_of_sound`,
`Join.readsBack_of_forall`, `Query.readsBack_of_forall`).
-/

namespace PolySql

open Read

def Bound.ReadsBack (b : Bound) : Prop := boundOf b.toJson = .ok (.bound b)

def KeyGenerator.ReadsBack (g : KeyGenerator) : Prop := generator (.plain g.json) = .ok g

def Clause.ReadsBack (c : Clause Query) : Prop := fieldOf .clause c.toJson = .ok (.clause c)

def Query.ReadsBack (q : Query) : Prop := fieldOf .query q.toJson = .ok (.query q)

def Join.toJson (j : Join Query) : Json := Write.join (j.map Query.toJson)

def Join.ReadsBack (j : Join Query) : Prop := fieldOf .join j.toJson = .ok (.join j)

def Verbatim.Sound (sql : Verbatim) : Prop := ∀ b ∈ sql.bindings, b.ReadsBack

def Table.Sound : Table Query → Prop
  | .verbatim sql _ => sql.Sound
  | .derived q _ => q.ReadsBack
  | _ => True

def PathJoin.Sound (j : PathJoin) : Prop :=
  (∀ g ∈ j.sourceKeyGenerator, g.ReadsBack) ∧ ∀ g ∈ j.targetKeyGenerator, g.ReadsBack

def JoinClause.Sound : JoinClause Query → Prop
  | .base => True
  | .explicit j => j.ReadsBack
  | .path j => j.Sound

def Column.Sound : Column Query → Prop
  | .verbatim sql => sql.Sound
  | .subquery q => q.ReadsBack
  | _ => True

def OrderItem.Sound : OrderItem → Prop
  | .verbatim sql => sql.Sound
  | _ => True

def Insert.Sound : Insert Query → Prop
  | .row _ values => ∀ b ∈ values, b.ReadsBack
  | .rows _ q => q.ReadsBack
  | _ => True

def Union.Sound : Union Query → Prop
  | .operand _ _ q => q.ReadsBack
  | .verbatim sql => sql.Sound
  | _ => True

def Test.Sound : Test Query → Prop
  | .verbatim sql => sql.Sound
  | .compare _ _ value | .datePart _ _ _ value => value.ReadsBack
  | .subquery _ _ q | .oneOfQuery _ q | .nonempty q => q.ReadsBack
  | .oneOf _ values => ∀ b ∈ values, b.ReadsBack
  | .between _ lower higher => lower.ReadsBack ∧ higher.ReadsBack
  | _ => True

def Condition.Sound : Condition Query → Prop
  | .test _ t => t.Sound
  | .group _ members => ∀ m ∈ members, Clause.ReadsBack (m.map .condition)

def Body.Sound : Body Query → Prop
  | .table t => t.Sound
  | .join j => j.Sound
  | .column c => c.Sound
  | .order item => item.Sound
  | .insert i => i.Sound
  | .union u => u.Sound
  | .condition c => c.Sound
  | _ => True

@[simp] theorem text_str (s : String) : text (.plain (.str s)) = .ok s := rfl

@[simp] theorem flag_bool (b : Bool) : flag (.plain (.bool b)) = .ok b := rfl

@[simp] theorem nullable_text (s : Option String) :
    nullable text (.plain (Write.optionalText s)) = .ok s := by
  cases s <;> rfl

@[simp] theorem nullable_integer (n : Option Int) :
    nullable integer (.plain (Json.ofOption Json.int n)) = .ok n := by
  cases n with
  | none => rfl
  | some n => simp [nullable, integer, Json.ofOption, Field.json?, Json.whole?_zero]

theorem nullable_generator {g : Option KeyGenerator} (h : ∀ k ∈ g, k.ReadsBack) :
    nullable generator (.plain (Json.ofOption KeyGenerator.json g)) = .ok g := by
  cases g with
  | none => rfl
  | some g =>
    have hg : generator (.plain g.json) = .ok g := h g rfl
    cases hjson : g.json <;> rw [hjson] at hg <;>
      first | cases hg | simp [nullable, Json.ofOption, Field.json?, hjson, hg]

@[simp] theorem choice_joinType (t : JoinType) :
    choice JoinType.all JoinType.name (.plain (.str t.name)) = .ok t := by
  cases t <;> rfl

@[simp] theorem choice_setOperation (o : SetOperation) :
    choice SetOperation.all SetOperation.name (.plain (.str o.name)) = .ok o := by
  cases o <;> rfl

@[simp] theorem choice_lockMode (m : LockMode) :
    choice LockMode.all LockMode.name (.plain (.str m.name)) = .ok m := by
  cases m <;> rfl

@[simp] theorem choice_method (m : Method) :
    choice methods Method.name (.plain (.str m.name)) = .ok m := by
  rcases m with _ | (_ | _ | _) <;> rfl

theorem list_map {α : Type} {read : Field → Checked α} (field : α → Field)
    (h : ∀ a, read (field a) = .ok a) (as : List α) :
    list read (.many (as.map field)) = .ok as := by
  refine list_eq_ok_iff.mpr ⟨_, rfl, ?_⟩
  rw [List.forall₂_map_left_iff]
  exact List.forall₂_same.mpr fun a _ => h a

@[simp] theorem list_text (ss : List String) : list text (.plain (Write.texts ss)) = .ok ss := by
  refine list_eq_ok_iff.mpr ⟨_, rfl, ?_⟩
  rw [List.map_map, List.forall₂_map_left_iff]
  exact List.forall₂_same.mpr fun s _ => rfl

@[simp] theorem list_bound (bs : List Bound) : list bound (.many (bs.map .bound)) = .ok bs :=
  list_map .bound (fun _ => rfl) bs

@[simp] theorem list_clause (cs : List (Clause Query)) :
    list clause (.many (cs.map .clause)) = .ok cs :=
  list_map .clause (fun _ => rfl) cs

@[simp] theorem table_clause (t : Scoped (Table Query)) :
    table (.clause (t.map .table)) = .ok t := rfl

@[simp] theorem list_condition (members : List (Scoped (Condition Query))) :
    list condition (.many (members.map fun m => .clause (m.map .condition))) = .ok members :=
  list_map (fun m => .clause (m.map .condition)) (fun _ => rfl) members

@[simp] theorem fieldOf_plain (v : Json) : fieldOf .plain v = .ok (.plain v) := by
  cases v <;> rfl

/-- A bound position that holds neither an array nor an object is left as it stands. -/
def Bound.field : Bound → Field
  | .value (.obj members) => .bound (.value (.obj members))
  | .value (.arr items) => .bound (.value (.arr items))
  | .value v => .plain v
  | .raw sql => .bound (.raw sql)

theorem Bound.fieldOf_toJson {b : Bound} (h : b.ReadsBack) :
    fieldOf .bound b.toJson = .ok b.field := by
  cases b with
  | raw sql => rfl
  | value v => cases v <;> first | rfl | exact h

@[simp] theorem Bound.bound_field (b : Bound) : bound b.field = .ok b := by
  cases b with
  | raw sql => rfl
  | value v => cases v <;> rfl

theorem fieldOf_bounds {bs : List Bound} (h : ∀ b ∈ bs, b.ReadsBack) :
    fieldOf .bounds (Write.bounds bs) = .ok (.many (bs.map .bound)) := by
  have hbs : (bs.map Bound.toJson).mapM boundOf = .ok (bs.map .bound) := by
    rw [mapM_eq_ok_iff, List.forall₂_map_left_iff, List.forall₂_map_right_iff]
    exact List.forall₂_same.mpr h
  rw [Write.bounds, fieldOf, hbs]
  rfl

theorem conditions_mapMembers (members : List (Scoped (Condition Query))) :
    Write.conditions (Condition.mapMembers Query.toJson members) =
      members.map fun m => Clause.toJson (m.map .condition) := by
  induction members with
  | nil => rfl
  | cons m rest ih => exact congrArg (_ :: ·) ih

namespace Read.Reads

variable {owner : Shape} {name : String}

theorem plain {v : Json} (h : shapeOf owner name = .plain) :
    Reads owner (name, v) (name, .plain v) :=
  ⟨rfl, by rw [h, fieldOf_plain]⟩

theorem bound {b : Bound} (h : shapeOf owner name = .bound) (hb : b.ReadsBack) :
    Reads owner (name, b.toJson) (name, b.field) :=
  ⟨rfl, by rw [h, b.fieldOf_toJson hb]⟩

theorem bounds {bs : List Bound} (h : shapeOf owner name = .bounds) (hbs : ∀ b ∈ bs, b.ReadsBack) :
    Reads owner (name, Write.bounds bs) (name, .many (bs.map .bound)) :=
  ⟨rfl, by rw [h, fieldOf_bounds hbs]⟩

theorem query {q : Query} (h : shapeOf owner name = .query) (hq : q.ReadsBack) :
    Reads owner (name, q.toJson) (name, .query q) :=
  ⟨rfl, by rw [h]; exact hq⟩

theorem clause {c : Clause Query} (h : shapeOf owner name = .clause) (hc : c.ReadsBack) :
    Reads owner (name, c.toJson) (name, .clause c) :=
  ⟨rfl, by rw [h]; exact hc⟩

theorem clauses {α : Type} {clause : α → Clause Query} {as : List α}
    (h : shapeOf owner name = .clauses) (has : ∀ a ∈ as, (clause a).ReadsBack) :
    Reads owner (name, .arr (as.map fun a => (clause a).toJson))
      (name, .many (as.map fun a => .clause (clause a))) := by
  have hmodels : modelsOf (as.map fun a => (clause a).toJson) =
      .ok (as.map fun a => .clause (clause a)) := by
    rw [modelsOf_eq_mapM, mapM_eq_ok_iff, List.forall₂_map_left_iff, List.forall₂_map_right_iff]
    exact List.forall₂_same.mpr has
  refine ⟨rfl, ?_⟩
  rw [h, fieldOf, hmodels]
  rfl

theorem conditions {members : List (Scoped (Condition Query))}
    (h : shapeOf owner name = .clauses)
    (hmembers : ∀ m ∈ members, Clause.ReadsBack (m.map .condition)) :
    Reads owner (name, .arr (Write.conditions (Condition.mapMembers Query.toJson members)))
      (name, .many (members.map fun m => .clause (m.map .condition))) := by
  rw [conditions_mapMembers]
  exact clauses h hmembers

theorem join {j : Join Query} (h : shapeOf owner name = .join) (hj : j.ReadsBack) :
    Reads owner (name, j.toJson) (name, .join j) :=
  ⟨rfl, by rw [h]; exact hj⟩

end Read.Reads

theorem names_of_reads {owner : Shape} {members : List (String × Json)}
    {fields : List (String × Field)} {p : String → Prop}
    (h : List.Forall₂ (Reads owner) members fields) (hp : ∀ m ∈ members, p m.1) :
    ∀ f ∈ fields, p f.1 :=
  (forall_mem_iff_of_forall₂ h fun m f hmf => by rw [hmf.1]).mp hp

theorem forall_names_mem {owner : Shape} {members : List (String × Json)}
    {fields : List (String × Field)} {names : List String}
    (h : List.Forall₂ (Reads owner) members fields)
    (hnames : members.all (fun m => names.contains m.1) = true) : ∀ f ∈ fields, f.1 ∈ names :=
  names_of_reads h fun m hm => by simpa using List.all_eq_true.mp hnames m hm

theorem fieldOf_query_of_reads {members : List (String × Json)} {fields : List (String × Field)}
    {q : Query} (h : List.Forall₂ (Reads .query) members fields)
    (hnames : members.all (fun m => queryModel.names.contains m.1) = true)
    (hread : queryModel.read fields = .ok q) : fieldOf .query (.obj members) = .ok (.query q) := by
  rw [fieldOf, fieldsOf_eq_ok_iff.mpr h]
  exact congrArg (Except.map Field.query) (Form.run_eq_ok hread (forall_names_mem h hnames))

theorem fieldOf_join_of_reads {members : List (String × Json)} {fields : List (String × Field)}
    {j : Join Query} (h : List.Forall₂ (Reads .join) members fields)
    (hnames : members.all (fun m => joinModel.names.contains m.1) = true)
    (hread : joinModel.read fields = .ok j) : fieldOf .join (.obj members) = .ok (.join j) := by
  rw [fieldOf, fieldsOf_eq_ok_iff.mpr h]
  exact congrArg (Except.map Field.join) (Form.run_eq_ok hread (forall_names_mem h hnames))

/-- A clause reads back if its kind has a form that takes the written members for its body. -/
theorem Clause.readsBack_of_reads {component engine : String} {body : Body Query}
    {stated : Option String} {form : Form (Body Query)} {fields : List (String × Field)}
    (hform : clauseForms.lookup body.kind = some (inScope stated form))
    (hnames : (Write.body (body.map Query.toJson)).all
      (fun m => m.1 ≠ "kind" && form.names.contains m.1) = true)
    (hfields : List.Forall₂ (Reads .clause) (Write.body (body.map Query.toJson)) fields)
    (hread : form.read (("component", .plain (.str component)) ::
      ("engine", .plain (.str engine)) :: fields) = .ok body) :
    Clause.ReadsBack ⟨component, engine, body⟩ := by
  have hmembers : fieldsOf .clause (("component", .str component) :: ("engine", .str engine) ::
      ("kind", .str body.kind) :: Write.body (body.map Query.toJson)) =
      .ok (("component", .plain (.str component)) :: ("engine", .plain (.str engine)) ::
        ("kind", .plain (.str body.kind)) :: fields) :=
    fieldsOf_eq_ok_iff.mpr (.cons ⟨rfl, rfl⟩ (.cons ⟨rfl, rfl⟩ (.cons ⟨rfl, rfl⟩ hfields)))
  have hown : ∀ f ∈ fields, f.1 ≠ "kind" ∧ f.1 ∈ form.names :=
    names_of_reads (p := fun name => name ≠ "kind" ∧ name ∈ form.names) hfields
      fun m hm => by simpa using List.all_eq_true.mp hnames m hm
  have hrest : fields.filter (·.1 ≠ "kind") = fields :=
    List.filter_eq_self.mpr fun f hf => decide_eq_true (hown f hf).1
  have hrun : (inScope stated form).run body.kind (("component", .plain (.str component)) ::
      ("engine", .plain (.str engine)) :: fields) = .ok ⟨component, engine, body⟩ := by
    refine Form.run_eq_ok ?_ ?_
    · simp [inScope, Form.read_member_cons, hread]
    · intro f hf
      have hnames : (inScope stated form).names = "component" :: "engine" :: form.names := rfl
      rw [hnames]
      rcases List.mem_cons.mp hf with rfl | hf
      · exact List.mem_cons_self
      rcases List.mem_cons.mp hf with rfl | hf
      · exact List.mem_cons_of_mem _ List.mem_cons_self
      · exact List.mem_cons_of_mem _ (List.mem_cons_of_mem _ (hown f hf).2)
  have hstated : statedForm? (("component", .str component) :: ("engine", .str engine) ::
      ("kind", .str body.kind) :: Write.body (body.map Query.toJson)) =
      some (body.kind, inScope stated form) := by
    simp [statedForm?, List.lookup_cons, hform]
  unfold ReadsBack toJson Write.clause Write.scope Scoped.map
  rw [Body.kind_map, fieldOf, hstated]
  dsimp only
  rw [hmembers]
  show Field.clause <$> (inScope stated form).run body.kind
    (("component", _) :: ("engine", _) :: fields.filter (·.1 ≠ "kind")) = _
  rw [hrest, hrun]
  rfl

section Bodies

variable {component engine : String}

theorem Table.readsBack_of_sound {t : Table Query} (h : t.Sound) :
    Clause.ReadsBack ⟨component, engine, .table t⟩ := by
  cases t with
  | base => rfl
  | named table => rfl
  | verbatim sql aliasName =>
    refine Clause.readsBack_of_reads rfl rfl
      (.cons (.plain rfl) (.cons (.bounds rfl h) (.cons (.plain rfl) .nil))) ?_
    simp [Read.verbatim, bindings, optionalText, Form.read_member_cons]
  | derived q aliasName =>
    refine Clause.readsBack_of_reads rfl rfl (.cons (.plain rfl) (.cons (.query rfl h) .nil)) ?_
    simp [query, optionalText, Form.read_member_cons]

theorem JoinClause.readsBack_of_sound {j : JoinClause Query} (h : j.Sound) :
    Clause.ReadsBack ⟨component, engine, .join j⟩ := by
  cases j with
  | base => rfl
  | explicit j =>
    refine Clause.readsBack_of_reads rfl rfl (.cons (.join rfl h) .nil) ?_
    simp [join, Form.read_member_cons]
  | path j =>
    refine Clause.readsBack_of_reads rfl rfl
      (.cons (.plain rfl) (.cons (.plain rfl) (.cons (.plain rfl)
        (.cons (.plain rfl) (.cons (.plain rfl) (.cons (.plain rfl) .nil)))))) ?_
    simp [pathJoin, joinType, optionalText, nullable_generator h.1, nullable_generator h.2,
      Form.read_member_cons]

theorem Column.readsBack_of_sound {c : Column Query} (h : c.Sound) :
    Clause.ReadsBack ⟨component, engine, .column c⟩ := by
  cases c with
  | base => rfl
  | named name => rfl
  | verbatim sql =>
    refine Clause.readsBack_of_reads rfl rfl (.cons (.bounds rfl h) (.cons (.plain rfl) .nil)) ?_
    simp [Read.verbatim, bindings, Form.read_member_cons]
  | subquery q =>
    refine Clause.readsBack_of_reads rfl rfl (.cons (.query rfl h) .nil) ?_
    simp [query, Form.read_member_cons]

theorem OrderItem.readsBack_of_sound {item : OrderItem} (h : item.Sound) :
    Clause.ReadsBack ⟨component, engine, .order item⟩ := by
  cases item with
  | base => rfl
  | column column ascending => rfl
  | verbatim sql =>
    refine Clause.readsBack_of_reads rfl rfl (.cons (.bounds rfl h) (.cons (.plain rfl) .nil)) ?_
    simp [Read.verbatim, bindings, Form.read_member_cons]
  | random seed => rfl

theorem Insert.readsBack_of_sound {i : Insert Query} (h : i.Sound) :
    Clause.ReadsBack ⟨component, engine, .insert i⟩ := by
  cases i with
  | base => rfl
  | row columns values =>
    refine Clause.readsBack_of_reads rfl rfl (.cons (.plain rfl) (.cons (.bounds rfl h) .nil)) ?_
    simp [Form.read_member_cons]
  | rows columns q =>
    refine Clause.readsBack_of_reads rfl rfl (.cons (.plain rfl) (.cons (.query rfl h) .nil)) ?_
    simp [query, Form.read_member_cons]

theorem Union.readsBack_of_sound {u : Union Query} (h : u.Sound) :
    Clause.ReadsBack ⟨component, engine, .union u⟩ := by
  cases u with
  | base => rfl
  | operand operation all q =>
    refine Clause.readsBack_of_reads rfl rfl
      (.cons (.plain rfl) (.cons (.plain rfl) (.cons (.query rfl h) .nil))) ?_
    simp [query, Form.read_member_cons]
  | verbatim sql =>
    refine Clause.readsBack_of_reads rfl rfl (.cons (.bounds rfl h) (.cons (.plain rfl) .nil)) ?_
    simp [Read.verbatim, bindings, Form.read_member_cons]

theorem Test.readsBack_of_sound {flags : Flags} {t : Test Query} (h : t.Sound) :
    Clause.ReadsBack ⟨component, engine, .condition (.test flags t)⟩ := by
  cases t with
  | verbatim sql =>
    refine Clause.readsBack_of_reads rfl rfl (.cons (.plain rfl) (.cons (.plain rfl)
      (.cons (.bounds rfl h) (.cons (.plain rfl) .nil)))) ?_
    simp [Read.flags, Read.verbatim, bindings, Form.read_member_cons]
  | compare column operator value =>
    refine Clause.readsBack_of_reads rfl rfl (.cons (.plain rfl) (.cons (.plain rfl)
      (.cons (.plain rfl) (.cons (.plain rfl) (.cons (.bound rfl h) .nil))))) ?_
    simp [Read.flags, Read.operator, Form.read_member_cons]
  | datePart column part operator value =>
    refine Clause.readsBack_of_reads rfl rfl (.cons (.plain rfl) (.cons (.plain rfl)
      (.cons (.plain rfl) (.cons (.plain rfl) (.cons (.plain rfl)
        (.cons (.bound rfl h) .nil)))))) ?_
    simp [Read.flags, Read.operator, Form.read_member_cons]
  | subquery column operator q =>
    refine Clause.readsBack_of_reads rfl rfl (.cons (.plain rfl) (.cons (.plain rfl)
      (.cons (.plain rfl) (.cons (.plain rfl) (.cons (.query rfl h) .nil))))) ?_
    simp [Read.flags, Read.operator, query, Form.read_member_cons]
  | oneOf column values =>
    refine Clause.readsBack_of_reads rfl rfl (.cons (.plain rfl) (.cons (.plain rfl)
      (.cons (.plain rfl) (.cons (.bounds rfl h) .nil)))) ?_
    simp [Read.flags, Form.read_member_cons]
  | oneOfQuery column q =>
    refine Clause.readsBack_of_reads rfl rfl (.cons (.plain rfl) (.cons (.plain rfl)
      (.cons (.plain rfl) (.cons (.query rfl h) .nil)))) ?_
    simp [Read.flags, query, Form.read_member_cons]
  | between column lower higher =>
    refine Clause.readsBack_of_reads rfl rfl (.cons (.plain rfl) (.cons (.plain rfl)
      (.cons (.plain rfl) (.cons (.bound rfl h.2) (.cons (.bound rfl h.1) .nil))))) ?_
    simp [Read.flags, Form.read_member_cons]
  | nonempty q =>
    refine Clause.readsBack_of_reads rfl rfl (.cons (.plain rfl) (.cons (.plain rfl)
      (.cons (.query rfl h) .nil))) ?_
    simp [Read.flags, query, Form.read_member_cons]
  | base | pattern column operator value caseSensitive | columns first operator second
  | isNull column | isTrue column value => rfl

theorem Condition.readsBack_of_sound {c : Condition Query} (h : c.Sound) :
    Clause.ReadsBack ⟨component, engine, .condition c⟩ := by
  cases c with
  | test flags t => exact Test.readsBack_of_sound h
  | group flags members =>
    refine Clause.readsBack_of_reads rfl rfl (.cons (.conditions rfl h) (.cons (.plain rfl)
      (.cons (.plain rfl) .nil))) ?_
    simp [Read.flags, Form.read_member_cons]

end Bodies

theorem Clause.readsBack_of_sound {component engine : String} {body : Body Query}
    (h : body.Sound) : Clause.ReadsBack ⟨component, engine, body⟩ := by
  cases body with
  | table t => exact Table.readsBack_of_sound h
  | join j => exact JoinClause.readsBack_of_sound h
  | column c => exact Column.readsBack_of_sound h
  | order item => exact OrderItem.readsBack_of_sound h
  | insert i => exact Insert.readsBack_of_sound h
  | union u => exact Union.readsBack_of_sound h
  | condition c => exact Condition.readsBack_of_sound h
  | aggregate a =>
    refine Clause.readsBack_of_reads rfl rfl
      (.cons (.plain rfl) (.cons (.plain rfl) (.cons (.plain rfl) .nil))) ?_
    simp [Read.aggregate, optionalText, Form.read_member_cons]
  | window w =>
    refine Clause.readsBack_of_reads rfl rfl (.cons (.plain rfl) (.cons (.plain rfl) .nil)) ?_
    simp [Read.window, Form.read_member_cons]
  | lock mode =>
    refine Clause.readsBack_of_reads rfl rfl (.cons (.plain rfl) .nil) ?_
    simp [Form.read_member_cons]
  | base => rfl

theorem Query.readsBack_of_forall {b : Block Query} (h : ∀ c ∈ b.clauses, Clause.ReadsBack c) :
    (ofBlock b).ReadsBack := by
  have hmembers : Query.toJson (.ofBlock b) = .obj
      [("alias", Write.optionalText b.aliasName),
        ("clauses", .arr (b.clauses.map fun c => Clause.toJson c)),
        ("is_distinct", .bool b.isDistinct), ("method", .str b.method.name)] := by
    rw [toJson, fold_ofBlock, ← toJson, Write.block, Write.blockMembers, Block.map, List.map_map]
    rfl
  rw [ReadsBack, hmembers]
  refine fieldOf_query_of_reads (.cons (.plain rfl) (.cons (.clauses rfl h)
    (.cons (.plain rfl) (.cons (.plain rfl) .nil)))) rfl ?_
  simp [queryModel, optionalText, Form.read_member_cons]

theorem Join.readsBack_of_forall {j : Join Query} (ht : Clause.ReadsBack (j.table.map .table))
    (h : ∀ c ∈ j.conditions, Clause.ReadsBack (c.map .condition)) : j.ReadsBack := by
  have hmembers : j.toJson = .obj
      [("conditions", .arr (Write.conditions (Condition.mapMembers Query.toJson j.conditions))),
        ("table", Clause.toJson (j.table.map .table)), ("type", .str j.type.name)] := by
    rw [Condition.mapMembers_eq]
    rfl
  rw [ReadsBack, hmembers]
  refine fieldOf_join_of_reads (.cons (.conditions rfl h) (.cons (.clause rfl ht)
    (.cons (.plain rfl) .nil))) rfl ?_
  simp [joinModel, joinType, table_clause, Form.read_member_cons]

end PolySql
