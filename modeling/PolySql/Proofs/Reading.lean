import Mathlib.Tactic.FinCases
import PolySql.Proofs.Effective
import PolySql.Proofs.Expansion
import PolySql.Proofs.Parts

/-!
What a statement reads of its clauses: of some components the one clause that takes effect, of the
others all that are seen, in their order. Main statement: clauses that read the same compile the
same, so that neither the order of different components nor a clause that no one reads counts.
-/

namespace PolySql

/-- The components of which one clause takes effect. -/
def effectiveComponents : List String := ["from", "aggregate", "limit", "lock", "insert", "update"]

/-- The components of which every clause counts that is seen. -/
def listedComponents : List String :=
  ["select", "join", "where", "group", "having", "order", "union", "cte"]

section Lookup

variable {α : Type} {cs ds : List (Scoped α)} {component engine : String}

theorem effective_congr (h : visible cs component engine = visible ds component engine) :
    effective cs component engine = effective ds component engine := by
  rw [effective, h]
  rfl

theorem anyVisible_congr (h : effective cs component engine = effective ds component engine) :
    anyVisible cs component engine = anyVisible ds component engine := by
  rw [Bool.eq_iff_iff, anyVisible_iff, anyVisible_iff, ne_eq, ne_eq, ← effective_eq_none_iff, h,
    effective_eq_none_iff]

theorem visible_flatMap {β : Type} (f : β → List (Scoped α)) (bs : List β) :
    visible (bs.flatMap f) component engine =
      bs.flatMap fun b => visible (f b) component engine := by
  simp only [visible, List.filter_flatMap]

theorem visible_eq_flatMap (cs : List (Scoped α)) :
    visible cs component engine = cs.flatMap fun c => visible [c] component engine := by
  rw [← visible_flatMap, List.flatMap_singleton']

/-- A clause is seen under its own component alone. -/
theorem visible_singleton_of_ne {c : Scoped α} (h : c.component ≠ component) :
    visible [c] component engine = [] := by
  simp [visible, h]

end Lookup

section Mixed

variable {α : Type} {engine : String}

/-- Lists that differ in nothing but how clauses of different components are mixed. -/
def Interleaved (cs ds : List (Scoped α)) : Prop :=
  ∀ component, cs.filter (·.component == component) = ds.filter (·.component == component)

/-- A clause that no one reads in its place between others: its component is not known, or it is
not the one of its component that takes effect. -/
structure Unread (engine : String) (pre : List (Scoped α)) (c : Scoped α)
    (post : List (Scoped α)) : Prop where
  unlisted : c.component ∉ listedComponents
  idle : c.component ∈ effectiveComponents →
    effective (pre ++ c :: post) c.component engine ≠ some c

theorem Interleaved.visible_eq {cs ds : List (Scoped α)} (h : Interleaved cs ds)
    (component : String) : visible cs component engine = visible ds component engine := by
  have hfilter : ∀ es : List (Scoped α), visible es component engine =
      (es.filter (·.component == component)).filter (·.appliesTo engine) := by
    intro es
    rw [visible, List.filter_filter]
    exact List.filter_congr fun c _ => Bool.and_comm _ _
  rw [hfilter, hfilter, h component]

theorem Interleaved.mem {cs ds : List (Scoped α)} (h : Interleaved cs ds) {c : Scoped α}
    (hc : c ∈ ds) : c ∈ cs := by
  have hown : c ∈ ds.filter (·.component == c.component) := by simp [hc]
  rw [← h] at hown
  exact List.mem_of_mem_filter hown

/-- Neighbours of different components can change places. -/
theorem interleaved_swap {c d : Scoped α} (h : c.component ≠ d.component)
    (pre post : List (Scoped α)) : Interleaved (pre ++ c :: d :: post) (pre ++ d :: c :: post) := by
  intro component
  simp only [List.filter_append, List.filter_cons]
  by_cases hc : c.component = component
  · have hd : d.component ≠ component := fun hd => h (hc.trans hd.symm)
    simp [hc, hd]
  · simp [hc]

/-- Only the component of a clause knows of it. -/
theorem visible_insert_of_ne {pre post : List (Scoped α)} {c : Scoped α} {component : String}
    (h : c.component ≠ component) :
    visible (pre ++ c :: post) component engine = visible (pre ++ post) component engine := by
  rw [visible_append, visible_append, visible_cons, if_neg fun hseen => h hseen.1]

theorem effective_insert {pre post : List (Scoped α)} {c : Scoped α} {component : String}
    (h : effective (pre ++ c :: post) component engine ≠ some c) :
    effective (pre ++ c :: post) component engine = effective (pre ++ post) component engine := by
  have hnot : ¬ TakesEffect component engine pre c post := by
    intro htakes
    exact h (by rw [effective_insertion, if_pos htakes])
  rw [effective_insertion, if_neg hnot]

end Mixed

section Same

variable {Q : Type} (t : Target)

/-- Lists of clauses of which a statement for the target reads the same. -/
structure SameReading (cs ds : List (Clause Q)) : Prop where
  single : ∀ component ∈ effectiveComponents,
    effective cs component t.engine = effective ds component t.engine
  listed : ∀ component ∈ listedComponents,
    visible cs component t.engine = visible ds component t.engine

/-- Lists of clauses of which a select reads the same. -/
structure SameSelect (cs ds : List (Clause Q)) : Prop where
  single : ∀ component ∈ ["from", "aggregate", "limit", "lock"],
    effective cs component t.engine = effective ds component t.engine
  listed : ∀ component ∈ ["select", "join", "where", "group", "having", "order", "union"],
    visible cs component t.engine = visible ds component t.engine

/-- Path joins stand among the joins. -/
def PathsJoined (cs : List (Clause Q)) : Prop :=
  ∀ c ∈ cs, ∀ j, c.item = .join (.path j) → c.component = "join"

variable {t} {cs ds : List (Clause Q)}

theorem SameReading.sameSelect (h : SameReading t cs ds) : SameSelect t cs ds where
  single component hc := by
    have hread : ["from", "aggregate", "limit", "lock"] ⊆ effectiveComponents := by decide
    exact h.single component (hread hc)
  listed component hc := by
    have hread : ["select", "join", "where", "group", "having", "order", "union"] ⊆
        listedComponents := by decide
    exact h.listed component (hread hc)

theorem SameReading.of_interleaved (h : Interleaved cs ds) : SameReading t cs ds :=
  ⟨fun component _ => effective_congr (h.visible_eq component), fun component _ =>
    h.visible_eq component⟩

theorem SameReading.of_unread {pre post : List (Clause Q)} {c : Clause Q}
    (h : Unread t.engine pre c post) : SameReading t (pre ++ c :: post) (pre ++ post) := by
  refine ⟨fun component hc => ?_, fun component hc => ?_⟩
  · by_cases hown : c.component = component
    · subst hown
      exact effective_insert (h.idle hc)
    · exact effective_congr (visible_insert_of_ne hown)
  · apply visible_insert_of_ne
    rintro rfl
    exact h.unlisted hc

theorem SameReading.item (h : SameReading t cs ds) {component : String}
    (hc : component ∈ effectiveComponents) :
    effectiveItem cs component t.engine = effectiveItem ds component t.engine := by
  rw [effectiveItem, effectiveItem, h.single component hc]

theorem SameReading.map {R : Type} (f : Q → R) (h : SameReading t cs ds) :
    SameReading t (cs.map (Scoped.map (Body.map f))) (ds.map (Scoped.map (Body.map f))) := by
  refine ⟨fun component hc => ?_, fun component hc => ?_⟩
  · rw [effective_map, effective_map, h.single component hc]
  · rw [visible_map, visible_map, h.listed component hc]

theorem PathsJoined.map {R : Type} (f : Q → R) (h : PathsJoined cs) :
    PathsJoined (cs.map (Scoped.map (Body.map f))) := by
  intro d hd j hj
  obtain ⟨⟨component, engine, b⟩, hc, rfl⟩ := List.mem_map.mp hd
  refine h _ hc j ?_
  cases b with
  | join i => cases i <;> simp_all [Scoped.map, Body.map, JoinClause.map]
  | _ => cases hj

end Same

section Expanded

variable {Q : Type} {t : Target} {base : String}

theorem visible_replacement [Inflection] {c : Clause Q} {component : String}
    (hcomponent : component ≠ "join") (hc : ∀ j, c.item = .join (.path j) → c.component = "join") :
    visible (replacement t base c) component t.engine = visible [c] component t.engine := by
  cases hj : pathJoin? t c with
  | none => rw [replacement_of_none hj]
  | some j =>
    have hown : c.component ≠ component := by
      rw [hc j (pathJoin?_eq_some_iff.mp hj).2]
      exact hcomponent.symm
    rw [visible_singleton_of_ne hown, visible_replacement_of_path hj hcomponent]

/-- Only path joins go from the clauses of other components. -/
theorem visible_replacement_of_ne [Inflection] {component : String}
    (hcomponent : component ≠ "join") (base : String) (c : Clause Q) :
    visible (replacement t base c) component t.engine =
      (visible [c] component t.engine).filter fun c => (pathJoin? t c).isNone := by
  cases hj : pathJoin? t c with
  | none =>
    have hkeep : ∀ d ∈ visible [c] component t.engine, (pathJoin? t d).isNone := by
      intro d hd
      rw [List.mem_singleton.mp (List.mem_of_mem_filter hd), hj]
      rfl
    rw [replacement_of_none hj, List.filter_eq_self.mpr hkeep]
  | some j =>
    have hdrop : ∀ d ∈ visible [c] component t.engine, ¬ (pathJoin? t d).isNone := by
      intro d hd
      rw [List.mem_singleton.mp (List.mem_of_mem_filter hd), hj]
      exact Bool.false_ne_true
    rw [List.filter_eq_nil_iff.mpr hdrop, visible_replacement_of_path hj hcomponent]

theorem visible_replacement_join [Inflection] {c : Clause Q}
    (hc : ∀ j, c.item = .join (.path j) → c.component = "join") :
    visible (replacement t base c) "join" t.engine =
      (visible [c] "join" t.engine).flatMap (replacement t base) := by
  cases hj : pathJoin? t c with
  | none =>
    rw [replacement_of_none hj]
    by_cases hseen : c.component = "join" ∧ c.appliesTo t.engine
    · simp [visible, hseen, replacement_of_none hj]
    · simp [visible, hseen]
  | some j =>
    -- The joins of a path are seen by those who see the path.
    obtain ⟨hseen, hitem⟩ := pathJoin?_eq_some_iff.mp hj
    have hlinks : visible (replacement t base c) "join" t.engine = replacement t base c := by
      rw [visible, List.filter_eq_self, replacement, hj]
      intro d hd
      obtain ⟨step, -, rfl⟩ := List.mem_map.mp hd
      simpa [PathJoin.link, Scoped.appliesTo] using hseen
    have hown : visible [c] "join" t.engine = [c] := by
      simp [visible, hc j hitem, hseen]
    rw [hlinks, hown, List.flatMap_singleton]

variable {cs ds : List (Clause Q)}

/-- The path joins that the target sees are among the joins that it sees. -/
theorem pathJoins_visible (hpaths : PathsJoined cs) :
    pathJoins t (visible cs "join" t.engine) = pathJoins t cs := by
  rw [pathJoins, pathJoins, visible, List.filterMap_filter]
  refine List.filterMap_congr fun c hc => ?_
  cases hj : pathJoin? t c with
  | none => exact ite_self none
  | some j =>
    obtain ⟨hseen, hitem⟩ := pathJoin?_eq_some_iff.mp hj
    simp [hpaths c hc j hitem, hseen]

variable [Aliased Q]

theorem visible_expanded_of_ne [Inflection] {component : String} (hcomponent : component ≠ "join")
    (cs : List (Clause Q)) :
    visible (expanded t cs) component t.engine =
      (visible cs component t.engine).filter fun c => (pathJoin? t c).isNone := by
  rw [expanded, visible_flatMap, visible_eq_flatMap cs, List.filter_flatMap]
  exact List.flatMap_congr fun c _ => visible_replacement_of_ne hcomponent _ c

theorem effective_expanded [Inflection] {component : String} {c : Clause Q}
    (hcomponent : component ≠ "join") (h : effective cs component t.engine = some c)
    (hc : pathJoin? t c = none) :
    effective (expanded t cs) component t.engine = some c := by
  exact effective_of_filter (visible_expanded_of_ne hcomponent cs) h (by rw [hc]; rfl)

theorem visible_expanded [Inflection] (hpaths : PathsJoined cs) {component : String}
    (hcomponent : component ≠ "join") :
    visible (expanded t cs) component t.engine = visible cs component t.engine := by
  rw [expanded, visible_flatMap, visible_eq_flatMap cs]
  exact List.flatMap_congr fun c hc => visible_replacement hcomponent (hpaths c hc)

theorem visible_expanded_join [Inflection] (hpaths : PathsJoined cs) :
    visible (expanded t cs) "join" t.engine =
      (visible cs "join" t.engine).flatMap (replacement t ((baseAlias t cs).getD "")) := by
  rw [expanded, visible_flatMap, visible_eq_flatMap cs, List.flatMap_assoc]
  exact List.flatMap_congr fun c hc => visible_replacement_join (hpaths c hc)

theorem SameReading.baseAlias (h : SameReading t cs ds) : baseAlias t cs = baseAlias t ds := by
  rw [PolySql.baseAlias, PolySql.baseAlias, h.item (by decide)]

theorem SameReading.stranded? (h : SameReading t cs ds) (hcs : PathsJoined cs)
    (hds : PathsJoined ds) : stranded? t cs = stranded? t ds := by
  rw [PolySql.stranded?, PolySql.stranded?, h.baseAlias, ← pathJoins_visible hcs,
    ← pathJoins_visible hds, h.listed "join" (by decide)]

theorem SameReading.expanded [Inflection] (h : SameReading t cs ds) (hcs : PathsJoined cs)
    (hds : PathsJoined ds) : SameReading t (expanded t cs) (expanded t ds) := by
  refine ⟨fun component hc => ?_, fun component hc => ?_⟩
  · have hother : component ≠ "join" := by
      rintro rfl
      exact absurd hc (by decide)
    rw [effective_congr (visible_expanded hcs hother),
      effective_congr (visible_expanded hds hother)]
    exact h.single component hc
  · by_cases hjoin : component = "join"
    · subst hjoin
      rw [visible_expanded_join hcs, visible_expanded_join hds, h.listed "join" hc, h.baseAlias]
    · rw [visible_expanded hcs hjoin, visible_expanded hds hjoin]
      exact h.listed component hc

end Expanded

namespace Sql

variable {t : Target} {cs ds : List (Clause SubSelect)}

section Parts

theorem windowOf_congr (h : effective cs "limit" t.engine = effective ds "limit" t.engine) :
    windowOf t cs = windowOf t ds := by
  rw [windowOf, windowOf, effectiveItem, effectiveItem, h]

theorem lockOf_congr (h : effective cs "lock" t.engine = effective ds "lock" t.engine) :
    lockOf t cs = lockOf t ds := by
  rw [lockOf, lockOf, effectiveItem, effectiveItem, h]

theorem aggregatePart_congr (window : Option Window) (isDistinct : Bool)
    (h : effective cs "aggregate" t.engine = effective ds "aggregate" t.engine) :
    aggregatePart t window isDistinct cs = aggregatePart t window isDistinct ds := by
  rw [aggregatePart, aggregatePart, effectiveItem, effectiveItem, h]

theorem columnsPart_congr (window : Option Window) (isDistinct : Bool)
    (haggregate : effective cs "aggregate" t.engine = effective ds "aggregate" t.engine)
    (h : visible cs "select" t.engine = visible ds "select" t.engine) :
    columnsPart t window isDistinct cs = columnsPart t window isDistinct ds := by
  rw [columnsPart, columnsPart, anyVisible_congr haggregate, anyVisible_congr (effective_congr h),
    h]

theorem fromPart_congr (h : effective cs "from" t.engine = effective ds "from" t.engine) :
    fromPart t cs = fromPart t ds := by
  rw [fromPart, fromPart, effectiveItem, effectiveItem, h]

theorem joinPart_congr (h : visible cs "join" t.engine = visible ds "join" t.engine) :
    joinPart t cs = joinPart t ds := by
  rw [joinPart, joinPart, h]

theorem wherePart_congr (hfrom : effective cs "from" t.engine = effective ds "from" t.engine)
    (h : visible cs "where" t.engine = visible ds "where" t.engine) :
    wherePart t cs = wherePart t ds := by
  rw [wherePart, wherePart, anyVisible_congr hfrom, h]

theorem groupPart_congr (h : visible cs "group" t.engine = visible ds "group" t.engine) :
    groupPart t cs = groupPart t ds := by
  rw [groupPart, groupPart, h]

theorem havingPart_congr (h : visible cs "having" t.engine = visible ds "having" t.engine) :
    havingPart t cs = havingPart t ds := by
  rw [havingPart, havingPart, h]

theorem orderPart_congr (h : visible cs "order" t.engine = visible ds "order" t.engine) :
    orderPart t cs = orderPart t ds := by
  rw [orderPart, orderPart, h]

theorem unionPart_congr (h : visible cs "union" t.engine = visible ds "union" t.engine) :
    unionPart t cs = unionPart t ds := by
  rw [unionPart, unionPart, h]

theorem withList_congr (h : visible cs "cte" t.engine = visible ds "cte" t.engine) :
    withList t.dialect cs = withList t.dialect ds := by
  rw [withList, withList, h]

variable (hfrom : effective cs "from" t.engine = effective ds "from" t.engine)

include hfrom

theorem changedTable_congr (change : Change) :
    changedTable t change cs = changedTable t change ds := by
  rw [changedTable, changedTable, effectiveItem, effectiveItem, hfrom]

theorem insert_congr (h : effective cs "insert" t.engine = effective ds "insert" t.engine) :
    insert t cs = insert t ds := by
  rw [insert, insert, changedTable_congr hfrom, effectiveItem, effectiveItem, h]

variable (hwhere : visible cs "where" t.engine = visible ds "where" t.engine)

include hwhere

theorem whereSuffix_congr : whereSuffix t cs = whereSuffix t ds := by
  rw [whereSuffix, whereSuffix, wherePart_congr hfrom hwhere]

theorem update_congr (h : effective cs "update" t.engine = effective ds "update" t.engine) :
    update t cs = update t ds := by
  rw [update, update, changedTable_congr hfrom, whereSuffix_congr hfrom hwhere, effectiveItem,
    effectiveItem, h]

theorem delete_congr : delete t cs = delete t ds := by
  rw [delete, delete, changedTable_congr hfrom, whereSuffix_congr hfrom hwhere]

end Parts

section Statement

/-- The column for all columns is added to both or to neither. -/
theorem visible_withColumns_congr {component : String}
    (hselect : visible cs "select" t.engine = visible ds "select" t.engine)
    (h : visible cs component t.engine = visible ds component t.engine) :
    visible (withColumns t cs) component t.engine =
      visible (withColumns t ds) component t.engine := by
  by_cases hcolumn : component = "select"
  · subst hcolumn
    by_cases hnone : visible cs "select" t.engine = []
    · rw [visible_withColumns_select hnone, visible_withColumns_select (hselect ▸ hnone)]
    · rw [withColumns_of_visible hnone, withColumns_of_visible (hselect ▸ hnone), hselect]
  · rw [visible_withColumns hcolumn, visible_withColumns hcolumn, h]

theorem sameSelect_withColumns (h : SameSelect t cs ds) :
    SameSelect t (withColumns t cs) (withColumns t ds) := by
  refine ⟨fun component hc => ?_, fun component hc => ?_⟩
  · have hother : component ≠ "select" := by
      rintro rfl
      exact absurd hc (by decide)
    rw [effective_congr (visible_withColumns hother), effective_congr (visible_withColumns hother)]
    exact h.single component hc
  · exact visible_withColumns_congr (h.listed "select" (by decide)) (h.listed component hc)

/-- Only the window of a select is read from the clauses for it. -/
theorem selectWith_congr
    (hsingle : ∀ component ∈ ["from", "aggregate", "lock"],
      effective cs component t.engine = effective ds component t.engine)
    (hlisted : ∀ component ∈ ["select", "join", "where", "group", "having", "order", "union"],
      visible cs component t.engine = visible ds component t.engine)
    (window : Option Window) (isDistinct : Bool) :
    selectWith t window isDistinct cs = selectWith t window isDistinct ds := by
  have hfrom := hsingle "from" (by decide)
  have haggregate := hsingle "aggregate" (by decide)
  simp only [selectWith, lockOf_congr (hsingle "lock" (by decide)),
    aggregatePart_congr window isDistinct haggregate,
    columnsPart_congr window isDistinct haggregate (hlisted "select" (by decide)),
    fromPart_congr hfrom, joinPart_congr (hlisted "join" (by decide)),
    wherePart_congr hfrom (hlisted "where" (by decide)),
    groupPart_congr (hlisted "group" (by decide)),
    havingPart_congr (hlisted "having" (by decide)),
    orderPart_congr (hlisted "order" (by decide)),
    unionPart_congr (hlisted "union" (by decide))]

theorem selectExpanded_congr (h : SameSelect t cs ds) (isDistinct : Bool) :
    selectExpanded t isDistinct cs = selectExpanded t isDistinct ds := by
  have hsame := sameSelect_withColumns h
  have hread : ["from", "aggregate", "lock"] ⊆ ["from", "aggregate", "limit", "lock"] := by decide
  rw [selectExpanded_eq, selectExpanded_eq, windowOf_congr (hsame.single "limit" (by decide))]
  exact bind_congr fun window =>
    selectWith_congr (fun component hc => hsame.single component (hread hc)) hsame.listed window
      isDistinct

variable (h : SameReading t cs ds)

include h

variable (hcs : PathsJoined cs) (hds : PathsJoined ds)

include hcs hds

theorem select_congr (isDistinct : Bool) : select t isDistinct cs = select t isDistinct ds := by
  rw [select, select, expandPaths_eq, expandPaths_eq, h.stranded? hcs hds]
  cases stranded? t ds with
  | none => exact selectExpanded_congr (h.expanded hcs hds).sameSelect isDistinct
  | some j => rfl

end Statement

/-- The WITH list is read from the clauses as they are, and so is a change of rows. -/
theorem statement_congr {b b' : Block SubSelect} (h : SameReading t b.clauses b'.clauses)
    (hb : PathsJoined b.clauses) (hb' : PathsJoined b'.clauses) (hmethod : b.method = b'.method)
    (hdistinct : b.isDistinct = b'.isDistinct) : statement t b = statement t b' := by
  have hfrom := h.single "from" (by decide)
  have hwhere := h.listed "where" (by decide)
  simp only [statement, hmethod, hdistinct, withList_congr (h.listed "cte" (by decide)),
    insert_congr hfrom (h.single "insert" (by decide)),
    update_congr hfrom hwhere (h.single "update" (by decide)), delete_congr hfrom hwhere,
    select_congr h hb hb']

end Sql

/-- A compiled query hangs on nothing but the clauses that are read of it. Neither the order of
clauses of different components counts, nor a clause that no one reads. -/
theorem compile_of_sameReading (t : Target) (q : Query) (hq : PathsJoined q.block.clauses) :
    (∀ q' : Query, PathsJoined q'.block.clauses → q.block.method = q'.block.method →
      q.block.isDistinct = q'.block.isDistinct →
      SameReading t q.block.clauses q'.block.clauses → q.compile t = q'.compile t) ∧
    (∀ cs, Interleaved q.block.clauses cs →
      (Query.ofBlock { q.block with clauses := cs }).compile t = q.compile t) ∧
    ∀ pre c post, q.block.clauses = pre ++ post → PathsJoined (pre ++ c :: post) →
      Unread t.engine pre c post →
      (Query.ofBlock { q.block with clauses := pre ++ c :: post }).compile t = q.compile t := by
  have hsame : ∀ q' : Query, PathsJoined q'.block.clauses → q.block.method = q'.block.method →
      q.block.isDistinct = q'.block.isDistinct →
      SameReading t q.block.clauses q'.block.clauses → q.compile t = q'.compile t :=
    fun q' hq' hmethod hdistinct h => Sql.statement_congr (h.map _) (hq.map _) (hq'.map _) hmethod
      hdistinct
  refine ⟨hsame, fun cs h => ?_, fun pre c post hsplit hpaths h => ?_⟩
  · exact (hsame (.ofBlock { q.block with clauses := cs }) (fun c hc => hq c (h.mem hc)) rfl rfl
      (.of_interleaved h)).symm
  · have hread := SameReading.of_unread h
    rw [← hsplit] at hread
    exact (hsame (.ofBlock { q.block with clauses := pre ++ c :: post }) hpaths rfl rfl
      ⟨fun component hc => (hread.single component hc).symm, fun component hc =>
        (hread.listed component hc).symm⟩).symm

section Example

/-- The titles of posts with their authors, and a table that gives way to the other. -/
def titleClause : Clause Query := ⟨"select", wildcard, .column (.named "Title")⟩

def postsClause : Clause Query := ⟨"from", "sqlite", .table (.named "Posts")⟩

def authorClause : Clause Query :=
  ⟨"join", wildcard, .join (.path ⟨"Author", .left, none, none, none, none⟩)⟩

def draftsClause : Clause Query := ⟨"from", wildcard, .table (.named "Drafts")⟩

def noteClause : Clause Query := ⟨"note", wildcard, .base⟩

def titlesOf (cs : List (Clause Query)) : Query := .ofBlock ⟨cs, .select, false, none⟩

set_option maxRecDepth 20000 in
theorem titlesOf_compile :
    (titlesOf [draftsClause, titleClause, noteClause, postsClause, authorClause]).compile
        ⟨.sqlite, {}⟩ =
      .ok ⟨"SELECT \"Title\" FROM \"Posts\" LEFT JOIN \"Author\" " ++
        "ON \"Posts\".\"AuthorId\" = \"Author\".\"Id\"", []⟩ ∧
    (titlesOf [titleClause, postsClause, authorClause]).compile ⟨.sqlite, {}⟩ =
      (titlesOf [postsClause, titleClause, authorClause]).compile ⟨.sqlite, {}⟩ ∧
    (titlesOf [postsClause, titleClause, draftsClause, authorClause]).compile ⟨.sqlite, {}⟩ =
      (titlesOf [postsClause, titleClause, authorClause]).compile ⟨.sqlite, {}⟩ := by
  have hjoined : ∀ cs : List (Clause Query),
      cs ⊆ [draftsClause, titleClause, noteClause, postsClause, authorClause] →
        PathsJoined cs := by
    intro cs hcs c hc j hj
    have hmem := hcs hc
    fin_cases hmem <;> first | rfl | cases hj
  obtain ⟨hsame, hmixed, hunread⟩ := compile_of_sameReading ⟨.sqlite, {}⟩
    (titlesOf [postsClause, titleClause, authorClause])
    (hjoined _ (by simp [titlesOf, Query.block]))
  refine ⟨?_, ?_, ?_⟩
  · have hread : SameReading ⟨.sqlite, {}⟩ [postsClause, titleClause, authorClause]
        [draftsClause, titleClause, noteClause, postsClause, authorClause] := by
      refine ⟨fun component hc => ?_, fun component hc => ?_⟩ <;> fin_cases hc <;> rfl
    refine (hsame (titlesOf [draftsClause, titleClause, noteClause, postsClause, authorClause])
      (hjoined _ (by simp [titlesOf, Query.block])) rfl rfl hread).symm.trans ?_
    rfl
  · exact hmixed _ (interleaved_swap (by decide) [] [authorClause])
  · have hposts : effective ([postsClause, titleClause] ++ draftsClause :: [authorClause]) "from"
        "sqlite" = some postsClause := by rfl
    refine hunread [postsClause, titleClause] draftsClause [authorClause] rfl (hjoined _ (by simp))
      ⟨by decide, fun _ hdrafts => ?_⟩
    have hsame : postsClause = draftsClause := Option.some.inj (hposts.symm.trans hdrafts)
    exact absurd (congrArg Scoped.engine hsame) (by decide)

end Example

end PolySql
