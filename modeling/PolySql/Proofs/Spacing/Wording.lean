import PolySql.Proofs.Expansion
import PolySql.Proofs.Spacing.Fragment

/-!
The texts of a query that a select may write, and queries whose texts are all neat. Main statement:
the joins that stand for path joins are worded in names with single spaces, too (`isNeat_expanded`).
-/

namespace PolySql

open Text

/-- A text of a clause: a name that is put in quotes, or a word that is written as it stands. -/
inductive Wording
  | name (s : String)
  | word (s : String)

namespace Wording

def text : Wording → String
  | .name s | .word s => s

/-- Blanks at the ends of a name are taken off, or stay inside its quotes. -/
def Fits : Wording → Prop
  | .name s => SingleSpaced s.toList
  | .word s => Neat s

@[simp] theorem fits_name {s : String} : (name s).Fits ↔ SingleSpaced s.toList := Iff.rfl

@[simp] theorem fits_word {s : String} : (word s).Fits ↔ Neat s := Iff.rfl

theorem fits_of_neat {w : Wording} (h : Neat w.text) : w.Fits := by
  cases w with
  | name s => exact h.spaced
  | word s => exact h

def names (ss : List String) : List Wording := ss.map .name

@[simp] theorem forall_mem_names {ss : List String} {p : Wording → Prop} :
    (∀ w ∈ names ss, p w) ↔ ∀ s ∈ ss, p (.name s) := List.forall_mem_map

end Wording

open Wording (names)

def Bound.wordings : Bound → List Wording
  | .value _ => []
  | .raw sql => [.word sql]

theorem Bound.isNeat_iff {b : Bound} : b.IsNeat ↔ ∀ w ∈ b.wordings, w.Fits := by
  cases b <;> simp [Bound.IsNeat, Bound.wordings]

theorem forall_isNeat_iff {bs : List Bound} :
    (∀ b ∈ bs, b.IsNeat) ↔ ∀ w ∈ bs.flatMap Bound.wordings, w.Fits := by
  simp only [List.forall_mem_flatMap, Bound.isNeat_iff]

def Verbatim.wordings (sql : Verbatim) : List Wording :=
  .word sql.expression :: sql.bindings.flatMap Bound.wordings

def PathJoin.wordings (j : PathJoin) : List Wording :=
  .name j.expression :: j.sourceKeySuffix.toList.map .word ++ names j.targetKey.toList

/-- A seed may be left out. -/
def OrderItem.wordings : OrderItem → List Wording
  | .base => []
  | .column name _ => [.name name]
  | .verbatim sql => sql.wordings
  | .random seed => if seed = "" then [] else [.word seed]

def Aggregate.wordings (a : Aggregate) : List Wording :=
  .word a.function :: names a.columns ++ names a.aliasName.toList

section Clauses

variable {Q : Type}

/-- The text that a pattern matches is bound. -/
def Test.wordings : Test Q → List Wording
  | .base | .nonempty _ => []
  | .verbatim sql => sql.wordings
  | .compare column operator value => .name column :: .word operator :: value.wordings
  | .pattern column operator _ _ => [.name column, .word operator]
  | .datePart column part operator value =>
    .name column :: .word part :: .word operator :: value.wordings
  | .columns first operator second => [.name first, .word operator, .name second]
  | .subquery column operator _ => [.name column, .word operator]
  | .oneOf column values => .name column :: values.flatMap Bound.wordings
  | .between column lower higher => .name column :: lower.wordings ++ higher.wordings
  | .oneOfQuery column _ | .isNull column | .isTrue column _ => [.name column]

mutual

def Condition.wordings : Condition Q → List Wording
  | .test _ t => t.wordings
  | .group _ members => Condition.allWordings members

def Condition.allWordings : List (Scoped (Condition Q)) → List Wording
  | [] => []
  | ⟨_, _, c⟩ :: rest => c.wordings ++ Condition.allWordings rest

end

def Table.wordings : Table Q → List Wording
  | .base => []
  | .named table => [.name table]
  | .verbatim sql aliasName => sql.wordings ++ names aliasName.toList
  | .derived _ aliasName => names aliasName.toList

def JoinClause.wordings : JoinClause Q → List Wording
  | .base => []
  | .explicit j => j.table.item.wordings ++ Condition.allWordings j.conditions
  | .path j => j.wordings

def Column.wordings : Column Q → List Wording
  | .base | .subquery _ => []
  | .named name => [.name name]
  | .verbatim sql => sql.wordings

def Union.wordings : Union Q → List Wording
  | .base | .operand _ _ _ => []
  | .verbatim sql => sql.wordings

/-- A select writes none of what is inserted. -/
def Body.wordings : Body Q → List Wording
  | .table t => t.wordings
  | .join j => j.wordings
  | .column c => c.wordings
  | .order item => item.wordings
  | .aggregate a => a.wordings
  | .union u => u.wordings
  | .condition c => c.wordings
  | .base | .insert _ | .window _ | .lock _ => []

def Block.wordings (b : Block Q) : List Wording :=
  b.clauses.flatMap (·.item.wordings) ++ names b.aliasName.toList

/-- No rule of its own names the keys of a path join. -/
def Body.Keyless : Body Q → Prop
  | .join (.path j) => j.sourceKeyGenerator = none ∧ j.targetKeyGenerator = none
  | _ => True

theorem Condition.forall_mem_allWordings {members : List (Scoped (Condition Q))}
    {p : Wording → Prop} :
    (∀ w ∈ Condition.allWordings members, p w) ↔
      ∀ c ∈ members, ∀ w ∈ c.item.wordings, p w := by
  induction members with
  | nil => simp [Condition.allWordings]
  | cons c rest ih => simp [Condition.allWordings, or_imp, forall_and, ih]

end Clauses

/-- The texts of a query and of those nested in it are neat, and no key generator names a key. -/
inductive Query.Tidy : Query → Prop
  | ofBlock {b : Block Query} (texts : ∀ w ∈ b.wordings, Neat w.text)
    (keyless : ∀ c ∈ b.clauses, c.item.Keyless) (nested : ∀ q ∈ b.nested, Query.Tidy q) :
    Query.Tidy (.ofBlock b)

structure Options.IsNeat (o : Options) : Prop where
  sourceKeySuffix : Neat o.sourceKeySuffix
  targetKey : Neat o.targetKey
  aggregateAlias : Neat o.aggregateAlias

section Map

variable {Q R : Type} (f : Q → R)

theorem Test.wordings_map (t : Test Q) : (t.map f).wordings = t.wordings := by
  cases t <;> rfl

theorem Condition.wordings_map (c : Condition Q) : (c.map f).wordings = c.wordings := by
  induction c using Condition.induction with
  | test flags t => simp only [Condition.map, Condition.wordings, Test.wordings_map]
  | group flags members ih =>
    simp only [Condition.map, Condition.wordings]
    induction members with
    | nil => rfl
    | cons c rest ihrest =>
      rw [List.forall_mem_cons] at ih
      obtain ⟨component, engine, c⟩ := c
      simp only [Condition.mapMembers, Condition.allWordings]
      rw [ihrest ih.2, ih.1]

theorem Condition.allWordings_map (members : List (Scoped (Condition Q))) :
    Condition.allWordings (members.map (Scoped.map (Condition.map f))) =
      Condition.allWordings members := by
  have hgroup := Condition.wordings_map f (.group ⟨false, false⟩ members)
  simpa only [Condition.map, Condition.mapMembers_eq, Condition.wordings] using hgroup

theorem Table.wordings_map (t : Table Q) : (t.map f).wordings = t.wordings := by
  cases t <;> rfl

theorem Body.wordings_map (b : Body Q) : (b.map f).wordings = b.wordings := by
  cases b with
  | table t => exact t.wordings_map f
  | join j =>
    cases j with
    | explicit j =>
      exact congrArg₂ (· ++ ·) (j.table.item.wordings_map f) (Condition.allWordings_map f _)
    | _ => rfl
  | column c => cases c <;> rfl
  | insert i => cases i <;> rfl
  | union u => cases u <;> rfl
  | condition c => exact c.wordings_map f
  | _ => rfl

end Map

/-- A nested query whose select and whose alias are spaced well. -/
structure SubSelect.IsNeat (q : SubSelect) : Prop where
  aliasName : ∀ s ∈ q.aliasName, SingleSpaced s.toList
  select : Yields Fragment.IsNeat q.select

structure Body.IsNeat (b : Body SubSelect) : Prop where
  wordings : ∀ w ∈ b.wordings, w.Fits
  nested : ∀ q ∈ b.nested, q.IsNeat

section Expansion

variable {t : Target} {cs : List (Clause SubSelect)}

theorem singleSpaced_baseName {table : String} (h : SingleSpaced table.toList) :
    SingleSpaced (baseName table).toList := by
  obtain ⟨-, hsplit⟩ | ⟨-, target, name, rest, hsplit⟩ := splitAlias_cases table
  · rwa [baseName_plain hsplit]
  · rw [baseName_aliased hsplit]
    apply singleSpaced_strip
    apply singleSpaced_of_mem_splitAlias h
    rw [hsplit]
    exact List.mem_cons_of_mem _ (List.getLast_mem _)

theorem singleSpaced_refName {a : Table SubSelect} (h : (Body.table a).IsNeat) {s : String}
    (hs : a.refName = some s) : SingleSpaced s.toList := by
  obtain ⟨hwords, hnested⟩ := h
  cases a with
  | base => cases hs
  | named table =>
    rw [refName_named] at hs
    obtain rfl := Option.some.inj hs
    exact singleSpaced_baseName (hwords _ List.mem_cons_self)
  | verbatim sql aliasName =>
    obtain rfl : aliasName = some s := hs
    exact hwords (.name s) (List.mem_append_right _ List.mem_cons_self)
  | derived query aliasName =>
    rw [Table.refName, Option.or_eq_some_iff] at hs
    rcases hs with hs | ⟨-, hs⟩
    · obtain ⟨rfl, -⟩ := Option.filter_eq_some_iff.mp hs
      exact hwords (.name s) List.mem_cons_self
    · exact (hnested query List.mem_cons_self).aliasName s hs

theorem singleSpaced_baseAlias (h : ∀ c ∈ cs, c.item.IsNeat) :
    SingleSpaced ((baseAlias t cs).getD "").toList := by
  cases hbase : baseAlias t cs with
  | none => exact singleSpaced_nil
  | some s =>
    obtain ⟨hs, -⟩ := Option.filter_eq_some_iff.mp hbase
    obtain ⟨b, hb, hs⟩ := Option.bind_eq_some_iff.mp hs
    obtain ⟨c, hc, rfl⟩ := exists_of_effectiveItem _ _ _ hb
    have hneat := h c (List.mem_of_mem_filter hc)
    cases hitem : c.item with
    | table a =>
      rw [hitem] at hs hneat
      exact singleSpaced_refName hneat hs
    | _ =>
      rw [hitem] at hs
      cases hs

/-- A dot keeps the blanks of a table and of its key apart. -/
theorem singleSpaced_column {base key : String} (hbase : SingleSpaced base.toList)
    (hkey : SingleSpaced key.toList) : SingleSpaced (base ++ "." ++ key).toList := by
  rw [String.toList_append, String.toList_append]
  refine (hbase.append (by decide) (.inr (by decide))).append hkey (.inl ?_)
  rw [List.getLast?_append_of_ne_nil _ (by decide)]
  decide

section Link

variable {o : Options} (ho : o.IsNeat) {j : PathJoin} (hj : ∀ w ∈ j.wordings, w.Fits)
  {table : String}

include ho hj

theorem singleSpaced_keyOf (hkeyless : j.sourceKeyGenerator = none) :
    SingleSpaced (j.keyOf o table).toList := by
  simp only [PathJoin.keyOf, hkeyless]
  cases hs : j.targetKey with
  | none => exact ho.targetKey.spaced
  | some s => exact hj (.name s) (by simp [PathJoin.wordings, names, hs])

variable [Inflection]
  (hsingular : ∀ s : String, SingleSpaced s.toList → SingleSpaced (Inflection.singular s).toList)

include hsingular

theorem singleSpaced_sourceKey (hkeyless : j.sourceKeyGenerator = none)
    (htable : SingleSpaced table.toList) : SingleSpaced (j.sourceKey o table).toList := by
  have hsuffix : Neat (j.sourceKeySuffix.getD o.sourceKeySuffix) := by
    cases hs : j.sourceKeySuffix with
    | none => exact ho.sourceKeySuffix
    | some s => exact hj (.word s) (by simp [PathJoin.wordings, hs])
  simp only [PathJoin.sourceKey, hkeyless, String.toList_append]
  exact (hsingular _ htable).append hsuffix.spaced (.inr hsuffix.starts.head_ne)

theorem isNeat_link (hkeyless : j.sourceKeyGenerator = none) {engine source : String}
    (hsource : SingleSpaced source.toList) (htable : SingleSpaced table.toList) :
    (j.link (Q := SubSelect) o engine source table).item.IsNeat := by
  constructor
  · have hsourceKey := singleSpaced_sourceKey ho hj hsingular hkeyless htable
    have htargetKey : SingleSpaced (j.keyOf o table).toList := singleSpaced_keyOf ho hj hkeyless
    simp only [PathJoin.link, Body.wordings, JoinClause.wordings, Table.wordings,
      Condition.allWordings, Condition.wordings, Test.wordings, List.append_nil,
      List.singleton_append, List.forall_mem_cons, Wording.fits_name, Wording.fits_word,
      List.not_mem_nil, false_implies, implies_true, and_true]
    exact ⟨htable, singleSpaced_column hsource hsourceKey, by decide,
      singleSpaced_column htable htargetKey⟩
  · simp [PathJoin.nested_link]

end Link

theorem isNeat_expanded [Inflection]
    (hsingular : ∀ s : String, SingleSpaced s.toList → SingleSpaced (Inflection.singular s).toList)
    (ho : t.options.IsNeat) (h : ∀ c ∈ cs, c.item.IsNeat)
    (hkeyless : ∀ c ∈ cs, c.item.Keyless) : ∀ c ∈ expanded t cs, c.item.IsNeat := by
  intro d hd
  obtain ⟨c, hc, hd⟩ := List.mem_flatMap.mp hd
  obtain ⟨-, rfl⟩ | ⟨j, hj, source, hsource, table, htable, rfl⟩ := of_mem_replacement hd
  · exact h d hc
  · obtain ⟨-, hitem⟩ := pathJoin?_eq_some_iff.mp hj
    have hwords : ∀ w ∈ j.wordings, w.Fits := by
      have hbody := (h c hc).wordings
      rwa [hitem] at hbody
    have hnone : j.sourceKeyGenerator = none := by
      have hbody := hkeyless c hc
      rw [hitem] at hbody
      exact hbody.1
    have htables : ∀ table ∈ j.tables, SingleSpaced table.toList := by
      intro table htable
      exact singleSpaced_of_mem_splitDots (hwords (.name j.expression) List.mem_cons_self)
        (List.mem_of_mem_filter htable)
    refine isNeat_link ho hwords hsingular hnone ?_ (htables table htable)
    -- The first table is joined to the base, every other one to the table before it.
    rcases List.mem_cons.mp hsource with rfl | hsource
    · exact singleSpaced_baseAlias h
    · exact htables source hsource

end Expansion

end PolySql
