import PolySql.Proofs.Rereading.Written

/-!
What is read from JSON reads back. Main statements: the form of every kind makes sound bodies of
sound members (`clauseForms_ensure`), and every place of a value is read as a field that is sound
there (`sound_fieldOf`).
-/

namespace PolySql

open Read

namespace Form

variable {α β : Type} {S : String → Field → Prop} {P : α → Prop} {Q : β → Prop}

/-- All that the form reads from members of this sort has the property. -/
def Ensures (S : String → Field → Prop) (form : Form α) (P : α → Prop) : Prop :=
  ∀ members : List (String × Field), (∀ m ∈ members, S m.1 m.2) → Yields P (form.read members)

namespace Ensures

theorem pure {a : α} (h : P a) : Ensures S (pure a) P := fun _ _ => .of_ok h

theorem map {f : α → β} {x : Form α} (hx : Ensures S x P) (h : ∀ a, P a → Q (f a)) :
    Ensures S (f <$> x) Q :=
  fun members hm => (hx members hm).map h

theorem map_any {f : α → β} {x : Form α} (h : ∀ a, Q (f a)) : Ensures S (f <$> x) Q :=
  fun _ _ => (Yields.trivial _).map fun a _ => h a

theorem seq {f : Form (α → β)} {x : Form α} (hf : Ensures S f fun g => ∀ a, P a → Q (g a))
    (hx : Ensures S x P) : Ensures S (f <*> x) Q := by
  intro members hm b hb
  obtain ⟨g, a, hg, ha, rfl⟩ := Checked.both_eq_ok hb
  exact hf members hm g hg a (hx members hm a ha)

theorem seq_any {f : Form (α → β)} {x : Form α} (hf : Ensures S f fun g => ∀ a, Q (g a)) :
    Ensures S (f <*> x) Q :=
  seq (P := fun _ => True) (fun members hm g hg a _ => hf members hm g hg a)
    fun _ _ => .trivial _

theorem member {name : String} {read : Field → Checked α} {default : Option α}
    (hread : ∀ f, S name f → Yields P (read f)) (hdefault : ∀ a, default = some a → P a) :
    Ensures S (member name read default) P := by
  intro members hm
  induction members with
  | nil =>
    cases default with
    | none => exact .of_error _
    | some a => exact .of_ok (hdefault a rfl)
  | cons m rest ih =>
    rw [List.forall_mem_cons] at hm
    rw [read_member_cons]
    split
    · rename_i h
      intro a ha
      exact hread m.2 (h ▸ hm.1) a (Checked.under_eq_ok ha)
    · exact ih hm.2

theorem required {name : String} {read : Field → Checked α}
    (hread : ∀ f, S name f → Yields P (read f)) : Ensures S (required name read) P :=
  member hread (by simp)

theorem defaulted {name : String} {read : Field → Checked α} {default : α}
    (hread : ∀ f, S name f → Yields P (read f)) (hdefault : P default) :
    Ensures S (defaulted name read default) P :=
  member hread fun _ ha => Option.some.inj ha ▸ hdefault

end Ensures

end Form

/-- The models in a field of this place read back, as do the bound positions. -/
def Read.Shape.Sound : Shape → Field → Prop
  | .plain, _ => True
  | .bound, f => Yields Bound.ReadsBack (Read.bound f)
  | .bounds, f =>
    ∀ items, f.items? = some items → ∀ g ∈ items, Yields Bound.ReadsBack (Read.bound g)
  | .clause, f => ∀ c, f = .clause c → Clause.ReadsBack c
  | .clauses, f =>
    ∀ items, f.items? = some items → ∀ g ∈ items, ∀ c, g = .clause c → Clause.ReadsBack c
  | .query, f => ∀ q, f = .query q → q.ReadsBack
  | .join, f => ∀ j, f = .join j → j.ReadsBack

/-- The members of an owner are sound, each in the place that its name stands for. -/
abbrev SoundIn (owner : Shape) (name : String) (f : Field) : Prop := (shapeOf owner name).Sound f

theorem yields_list {α : Type} {read : Field → Checked α} {p : α → Prop} {f : Field}
    (h : ∀ items, f.items? = some items → ∀ g ∈ items, Yields p (read g)) :
    Yields (∀ a ∈ ·, p a) (list read f) := by
  intro as has a ha
  obtain ⟨items, hitems, hread⟩ := list_eq_ok_iff.mp has
  obtain ⟨g, hg, hga⟩ := exists_mem_of_forall₂ hread.flip ha
  exact h items hitems g hg a hga

/-- A clause of a family was read before, or has the members of a base and is that base. -/
theorem yields_family {α : Type} {base : Form (Scoped α)}
    {ofClause? : Clause Query → Option (Scoped α)} {f : Field} (body : α → Body Query)
    (hbase : Form.Ensures (fun _ _ => True) base fun a => (body a.item).Sound)
    (hof : ∀ c a, ofClause? c = some a → a.map body = c) (hf : Shape.clause.Sound f) :
    Yields (fun a => Clause.ReadsBack (a.map body)) (family base ofClause? f) := by
  unfold family
  split
  · rename_i c
    split
    · rename_i a ha
      exact .of_ok (hof c a ha ▸ hf c rfl)
    · exact .of_error _
  · intro a ha
    exact Clause.readsBack_of_sound
      (hbase _ (fun _ _ => trivial) a (Form.check_eq_ok_iff.mp ha).1)
  · exact .of_error _

/-- A scope says nothing of the body in it. -/
theorem inScope_ensures {α : Type} {S : String → Field → Prop} {P : α → Prop}
    {stated : Option String} {form : Form α} (h : form.Ensures S P) :
    (inScope stated form).Ensures S fun a => P a.item :=
  .seq (.seq_any (.map_any fun _ _ _ ha => ha)) h

theorem yields_table {f : Field} (hf : Shape.clause.Sound f) :
    Yields (fun t => Clause.ReadsBack (t.map .table)) (table f) := by
  refine yields_family _
    (inScope_ensures (P := fun t => (Body.table t).Sound) (.pure trivial)) ?_ hf
  rintro ⟨component, engine, body⟩ t h
  cases body <;> cases h
  rfl

theorem yields_condition {f : Field} (hf : Shape.clause.Sound f) :
    Yields (fun c => Clause.ReadsBack (c.map .condition)) (condition f) := by
  refine yields_family _
    (inScope_ensures (P := fun c => (Body.condition c).Sound) (.map_any fun _ => trivial)) ?_ hf
  rintro ⟨component, engine, body⟩ c h
  cases body <;> cases h
  rfl

theorem yields_clause {f : Field} (hf : Shape.clause.Sound f) :
    Yields Clause.ReadsBack (clause f) :=
  yields_family id (inScope_ensures (.pure trivial))
    (fun _ _ h => Option.some.inj h ▸ rfl) hf

theorem yields_query {f : Field} (hf : Shape.query.Sound f) :
    Yields Query.ReadsBack (query f) := by
  cases f with
  | query q => exact .of_ok (hf q rfl)
  | _ => exact .of_error _

theorem yields_join {f : Field} (hf : Shape.join.Sound f) : Yields Join.ReadsBack (join f) := by
  cases f with
  | join j => exact .of_ok (hf j rfl)
  | _ => exact .of_error _

theorem verbatim_ensures : verbatim.Ensures (SoundIn .clause) Verbatim.Sound :=
  .seq (.map_any fun _ _ h => h) (.defaulted (fun _ hf => yields_list hf) (by simp))

theorem conditions_ensure {owner : Shape} (h : shapeOf owner "conditions" = .clauses) :
    (Form.defaulted "conditions" (list condition) []).Ensures (SoundIn owner)
      fun cs => ∀ c ∈ cs, Clause.ReadsBack (c.map .condition) := by
  refine .defaulted (fun f hf => ?_) (by simp)
  rw [SoundIn, h] at hf
  exact yields_list fun items hitems g hg => yields_condition (hf items hitems g hg)

theorem yields_generator (f : Field) : Yields KeyGenerator.ReadsBack (generator f) := by
  unfold generator
  split
  · split
    · exact .of_ok rfl
    · exact .of_ok rfl
    · exact .of_ok rfl
    · exact .of_error _
  · exact .of_error _

theorem generator_ensures {S : String → Field → Prop} {name : String} :
    (Form.defaulted name (nullable generator) none).Ensures S
      fun g => ∀ k ∈ g, KeyGenerator.ReadsBack k := by
  refine .defaulted (fun f _ => ?_) (by simp)
  unfold nullable
  split
  · exact .of_ok (by simp)
  · exact (yields_generator f).map fun g hg => by simpa using hg

theorem pathJoin_ensures {S : String → Field → Prop} : pathJoin.Ensures S PathJoin.Sound :=
  .seq (.seq (.seq_any (.seq_any (.seq_any (.map_any fun _ _ _ _ _ hs _ ht => ⟨hs, ht⟩))))
    generator_ensures) generator_ensures

section Families

variable {S : String → Field → Prop}

/-- A family puts what its form reads into a body of one kind. -/
theorem family_ensures {α : Type} {stated : Option String} {body : α → Body Query} {form : Form α}
    (h : form.Ensures S fun a => (body a).Sound) :
    (inScope stated (body <$> form)).Ensures S fun c => c.item.Sound :=
  inScope_ensures (h.map fun _ ha => ha)

theorem testForm_ensures {form : Form (Test Query)} (h : form.Ensures S Test.Sound) :
    (testForm form).Ensures S fun c => c.item.Sound :=
  inScope_ensures (.seq (.map_any fun _ _ ht => ht) h)

end Families

/-- The body that each kind makes of sound members is sound. -/
theorem clauseForms_ensure :
    ∀ m ∈ clauseForms, m.2.Ensures (SoundIn .clause) fun c => c.item.Sound := by
  have value : (Form.defaulted "value" bound (.value .null)).Ensures (SoundIn .clause)
      Bound.ReadsBack := .defaulted (fun _ hf => hf) rfl
  have query : (Form.required "query" query).Ensures (SoundIn .clause) Query.ReadsBack :=
    .required fun _ hf => yields_query hf
  simp only [clauseForms, List.forall_mem_cons, List.not_mem_nil, false_implies, implies_true,
    and_true]
  refine ⟨inScope_ensures (.pure trivial), ?_⟩
  -- tables: a name, SQL text, a query
  refine ⟨family_ensures (.pure trivial),
    family_ensures (.map_any fun _ => trivial),
    family_ensures (.seq_any (.map verbatim_ensures fun _ h _ => h)),
    family_ensures (.seq_any (.map query fun _ h _ => h)), ?_⟩
  -- joins: explicit ones, paths
  refine ⟨family_ensures (.pure trivial),
    family_ensures (.map (.required fun _ hf => yields_join hf) fun _ h => h),
    family_ensures (.map pathJoin_ensures fun _ h => h), ?_⟩
  -- columns: a name, SQL text, a query
  refine ⟨family_ensures (.pure trivial),
    family_ensures (.map_any fun _ => trivial),
    family_ensures (.map verbatim_ensures fun _ h => h),
    family_ensures (.map query fun _ h => h), ?_⟩
  -- order items: a column, SQL text, random
  refine ⟨family_ensures (.pure trivial),
    family_ensures (.seq_any (.map_any fun _ _ => trivial)),
    family_ensures (.map verbatim_ensures fun _ h => h),
    family_ensures (.map_any fun _ => trivial), ?_⟩
  -- the aggregate, then inserts: a row, the rows of a query
  refine ⟨inScope_ensures (.map_any fun _ => trivial),
    family_ensures (.pure trivial),
    family_ensures (.seq (.map_any fun _ _ h => h) (.required fun _ hf => yields_list hf)),
    family_ensures (.seq (.map_any fun _ _ h => h) query), ?_⟩
  -- the window, then set operations: a query, SQL text; then the lock
  refine ⟨inScope_ensures (.map_any fun _ => trivial),
    family_ensures (.pure trivial),
    family_ensures (.seq (.seq_any (.map_any fun _ _ _ h => h)) query),
    family_ensures (.map verbatim_ensures fun _ h => h),
    inScope_ensures (.map_any fun _ => trivial), ?_⟩
  -- tests, up to the group of conditions
  refine ⟨testForm_ensures (.pure trivial),
    testForm_ensures (.map verbatim_ensures fun _ h => h),
    testForm_ensures (.seq (.seq_any (.map_any fun _ _ _ h => h)) value),
    testForm_ensures (.seq_any (.seq_any (.seq_any (.map_any fun _ _ _ _ => trivial)))),
    testForm_ensures (.seq (.seq_any (.seq_any (.map_any fun _ _ _ _ h => h))) value),
    testForm_ensures (.seq_any (.seq_any (.map_any fun _ _ _ => trivial))),
    inScope_ensures (.seq (.map_any fun _ _ h => h) (conditions_ensure rfl)), ?_⟩
  -- tests after it: two with a query, then a list, a query, two bounds
  refine ⟨testForm_ensures (.seq (.seq_any (.map_any fun _ _ _ h => h)) query),
    testForm_ensures (.seq (.map_any fun _ _ h => h)
      (.defaulted (fun _ hf => yields_list hf) (by simp))),
    testForm_ensures (.seq (.map_any fun _ _ h => h) query),
    testForm_ensures (.seq (.seq (.map_any fun _ _ hl _ hh => ⟨hl, hh⟩) (.required fun _ hf => hf))
      (.required fun _ hf => hf)), ?_⟩
  exact ⟨testForm_ensures (.map_any fun _ => trivial),
    testForm_ensures (.map query fun _ h => h),
    testForm_ensures (.seq_any (.map_any fun _ _ => trivial))⟩

theorem joinModel_ensures : joinModel.Ensures (SoundIn .join) Join.ReadsBack :=
  .seq (.seq (.map_any fun _ _ ht _ hcs => Join.readsBack_of_forall ht hcs)
    (.required fun _ hf => yields_table hf)) (conditions_ensure rfl)

theorem queryModel_ensures : queryModel.Ensures (SoundIn .query) Query.ReadsBack :=
  .seq_any (.seq_any (.seq_any (.map
    (.defaulted (fun _ hf => yields_list fun items h g hg => yields_clause (hf items h g hg))
      (by simp))
    fun _ hcs _ _ _ => Query.readsBack_of_forall hcs)))

theorem yields_boundOf (v : Json) :
    Yields (fun f => ∃ b, f = .bound b ∧ b.ReadsBack) (boundOf v) := by
  intro f hf
  have h := hf
  unfold boundOf at hf
  split at hf
  · split at hf
    · cases hf
      exact ⟨_, rfl, rfl⟩
    · cases hf
      exact ⟨_, rfl, h⟩
  · cases hf

/-- A bound position is sound where one is expected; where a list of them is, it is none. -/
theorem sound_boundOf (v : Json) :
    Yields (fun f => Shape.bound.Sound f ∧ Shape.bounds.Sound f) (boundOf v) := by
  intro f hf
  obtain ⟨b, rfl, hb⟩ := yields_boundOf v f hf
  refine ⟨.of_ok hb, fun items hitems => ?_⟩
  cases hitems

theorem mem_clauseForms_of_stated {members : List (String × Json)} {kind : String}
    {form : ClauseForm} (h : statedForm? members = some (kind, form)) :
    (kind, form) ∈ clauseForms := by
  unfold statedForm? at h
  split at h
  · obtain ⟨stated, hlookup, hpair⟩ := Option.map_eq_some_iff.mp h
    obtain ⟨before, after, hforms, -⟩ := List.lookup_eq_some_iff.mp hlookup
    cases hpair
    rw [hforms]
    exact List.mem_append_right _ List.mem_cons_self
  · cases h

mutual

/-- What is read in a place is sound there: the models nested in it are read before it. -/
theorem sound_fieldOf (shape : Shape) : ∀ v, Yields shape.Sound (fieldOf shape v)
  | .obj members => by
    cases shape with
    | plain => exact .of_ok trivial
    | bound => exact fun f hf => (sound_boundOf _ f hf).1
    | bounds => exact fun f hf => (sound_boundOf _ f hf).2
    | clauses => exact .of_ok fun items h => by cases h
    | clause =>
      rw [fieldOf]
      cases hstated : statedForm? members with
      | none => exact .of_ok (by rintro _ ⟨⟩)
      | some stated =>
        obtain ⟨kind, form⟩ := stated
        refine (sound_fieldsOf .clause members).bind fun fields hfields => ?_
        refine (?_ : Yields Clause.ReadsBack _).map (by rintro c hc _ ⟨⟩; exact hc)
        intro c hc
        exact Clause.readsBack_of_sound (clauseForms_ensure _ (mem_clauseForms_of_stated hstated) _
          (fun m hm => hfields m (List.mem_of_mem_filter hm)) c (Form.read_of_run hc))
    | query =>
      rw [fieldOf]
      refine (sound_fieldsOf .query members).bind fun fields hfields => ?_
      refine (?_ : Yields Query.ReadsBack _).map (by rintro q hq _ ⟨⟩; exact hq)
      exact fun q hq => queryModel_ensures fields hfields q (Form.read_of_run hq)
    | join =>
      rw [fieldOf]
      refine (sound_fieldsOf .join members).bind fun fields hfields => ?_
      refine (?_ : Yields Join.ReadsBack _).map (by rintro j hj _ ⟨⟩; exact hj)
      exact fun j hj => joinModel_ensures fields hfields j (Form.read_of_run hj)
  | .arr items => by
    cases shape with
    | plain => exact .of_ok trivial
    | bound => exact fun f hf => (sound_boundOf _ f hf).1
    | bounds =>
      rw [fieldOf]
      refine (Yields.mapM fun v _ => yields_boundOf v).map fun fields hfields _ h g hg => ?_
      cases h
      obtain ⟨b, rfl, hb⟩ := hfields g hg
      exact .of_ok hb
    | clause | query | join => exact .of_ok (by rintro _ ⟨⟩)
    | clauses =>
      rw [fieldOf]
      refine (sound_modelsOf items).map fun fields hfields _ h => ?_
      cases h
      exact hfields
  | .null | .bool _ | .num _ _ | .str _ => by
    cases shape with
    | plain => exact .of_ok trivial
    | bound => exact .of_ok (.of_ok rfl)
    | bounds | clauses => exact .of_ok fun items h => by cases h
    | clause | query | join => exact .of_ok (by rintro _ ⟨⟩)

theorem sound_modelsOf : ∀ items, Yields (∀ f ∈ ·, Shape.clause.Sound f) (modelsOf items)
  | [] => .of_ok (by simp)
  | v :: rest => by
    refine (sound_fieldOf .clause v).bind fun f hf => (sound_modelsOf rest).bind fun fs hfs => ?_
    exact .of_ok (List.forall_mem_cons.mpr ⟨hf, hfs⟩)

theorem sound_fieldsOf (owner : Shape) :
    ∀ members, Yields (∀ m ∈ ·, SoundIn owner m.1 m.2) (fieldsOf owner members)
  | [] => .of_ok (by simp)
  | (name, v) :: rest => by
    refine (sound_fieldOf (shapeOf owner name) v).bind fun f hf =>
      (sound_fieldsOf owner rest).bind fun fs hfs => ?_
    exact .of_ok (List.forall_mem_cons.mpr ⟨hf, hfs⟩)

end

end PolySql
