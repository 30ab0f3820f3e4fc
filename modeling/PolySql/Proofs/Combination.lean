import PolySql.Proofs.Parts
import PolySql.Proofs.SetSequence

/-!
Set operations between selects of whole tables. Main statement: every body is written in its place
behind its operation, without parentheses, and from left to right this gives the rows that the query
stands for, as long as the operations of an operand regroup with the one in front of it.
-/

namespace PolySql

open Text

section Text

variable (d : Dialect)

def TableBody.text (b : TableBody) : String :=
  "SELECT " ++ (if b.isDistinct then "DISTINCT " else "") ++ "* " ++
    strip ("FROM " ++ d.identifier b.table)

def SetOperator.text (o : SetOperator) : String :=
  Sql.setKeyword o.operation ++ if o.all then " ALL" else ""

namespace SetSequence

/-- The operations with their operands, a space in front of each. -/
def restText : List (SetOperator × TableBody) → String
  | [] => ""
  | (o, b) :: steps => " " ++ (o.text ++ " " ++ b.text d) ++ restText steps

def text (s : SetSequence) : String := s.first.text d ++ restText d s.rest

theorem restText_append (steps rest : List (SetOperator × TableBody)) :
    restText d (steps ++ rest) = restText d steps ++ restText d rest := by
  induction steps with
  | nil => rw [List.nil_append, restText, String.empty_append]
  | cons step steps ih => simp only [List.cons_append, restText, ih, String.append_assoc]

end SetSequence

end Text

namespace Sql

theorem identifier_star (d : Dialect) : d.identifier "*" = "*" := by
  have hstrip : strip "*" = "*" := by decide
  have hwhole : Dialect.isParenthesized "*" = false := by decide
  have halias : splitAlias "*" = ["*"] := by decide
  have hdots : splitDots "*" = ["*"] := by decide
  have hdotted : d.dotted "*" = "*" := by
    simp [Dialect.dotted, hstrip, hwhole, hdots, Dialect.quote]
  simp [Dialect.identifier, hstrip, hwhole, halias, hdotted]

section Plain

variable {t : Target} {cs : List (Clause SubSelect)} {isDistinct : Bool}
  (hother : ∀ component ∉ ["from", "union"], visible cs component t.engine = [])

include hother

theorem visible_plain {component : String} (h : component ∉ ["from", "union", "select"]) :
    visible (withColumns t cs) component t.engine = [] := by
  simp only [List.mem_cons, List.not_mem_nil, or_false, not_or] at h
  rw [visible_withColumns h.2.2, hother component (by simp [h])]

theorem effectiveItem_plain {component : String} (h : component ∉ ["from", "union", "select"]) :
    effectiveItem (withColumns t cs) component t.engine = none :=
  (effectiveItem_eq_none_iff _ _ _).mpr (visible_plain hother h)

theorem columnsPart_plain :
    columnsPart t none isDistinct (withColumns t cs) =
      .ok ("SELECT " ++ (if isDistinct then "DISTINCT " else "") ++ "*" : String) := by
  have haggregate : anyVisible (withColumns t cs) "aggregate" t.engine = false := by
    rw [← Bool.not_eq_true, anyVisible_iff, visible_plain hother (by decide)]
    simp
  have hlist : columns t.dialect [allColumns] = .ok ("*" : String) :=
    congrArg (fun s : String => Except.ok (s : Fragment)) (identifier_star t.dialect)
  rw [columnsPart, haggregate, anyVisible_withColumns_select,
    visible_withColumns_select (hother _ (by decide)), hlist]
  show Except.ok ("SELECT " ++ (if isDistinct then "DISTINCT " else "" : String) ++
    topPart t none ++ if ("*" : String) = "" then _ else _) = _
  rw [show topPart t none = ∅ from rfl, Fragment.append_empty, if_neg (show ¬ "*" = "" by decide)]
  simp only [Fragment.coe_append]

/-- A select of a table and set operations has three parts. -/
theorem selectExpanded_plain {table : String} {unions : Fragment}
    (hfrom : effectiveItem cs "from" t.engine = some (.table (.named table)))
    (hunions : unionPart t cs = .ok unions) :
    selectExpanded t isDistinct cs = .ok (.sentence
      [("SELECT " ++ (if isDistinct then "DISTINCT " else "") ++ "*" : String),
        ("FROM " ++ t.dialect.identifier table : String), unions]) := by
  have hcolumns : (if anyVisible cs "select" t.engine then cs else cs ++ [allColumns]) =
      withColumns t cs := rfl
  have hwindow : windowOf t (withColumns t cs) = .ok none := by
    rw [windowOf, effectiveItem_plain hother (by decide)]
  have hlock : lockOf t (withColumns t cs) = .ok none := by
    rw [lockOf, effectiveItem_plain hother (by decide)]
  have haggregate : aggregatePart t none isDistinct (withColumns t cs) = .ok ∅ := by
    rw [aggregatePart, effectiveItem_plain hother (by decide)]
  have htable : fromPart t (withColumns t cs) =
      .ok ("FROM " ++ t.dialect.identifier table : String) := by
    rw [fromPart, effectiveItem_congr (visible_withColumns (by decide)), hfrom]
    exact congrArg Except.ok (Fragment.coe_append _ _)
  have hjoin : joinPart t (withColumns t cs) = .ok ∅ := by
    rw [joinPart, visible_plain hother (by decide)]
    rfl
  have hwhere : wherePart t (withColumns t cs) = .ok ∅ := by
    rw [wherePart, visible_plain hother (by decide)]
    split
    · exact congrArg Except.ok (if_pos rfl)
    · rfl
  have hgroup : groupPart t (withColumns t cs) = .ok ∅ := by
    rw [groupPart, visible_plain hother (by decide)]
  have hhaving : havingPart t (withColumns t cs) = .ok ∅ := by
    rw [havingPart, visible_plain hother (by decide)]
    rfl
  have horder : orderPart t (withColumns t cs) = .ok ∅ := by
    rw [orderPart, visible_plain hother (by decide)]
  have hrest : unionPart t (withColumns t cs) = .ok unions := by
    rw [unionPart, visible_withColumns (by decide)]
    exact hunions
  simp only [selectExpanded, hcolumns, hwindow, hlock, bind, Except.bind]
  simp only [haggregate, columnsPart_plain hother, htable, hjoin, hwhere, hgroup, hhaving, horder,
    hrest, List.mapM_cons, List.mapM_nil, id, bind, Except.bind, pure, Except.pure]
  have hblank : (∅ : Fragment).strip.text = "" ∧ (("" : String) : Fragment).strip.text = "" := by
    decide
  apply congrArg Except.ok
  ext1 <;> simp [Fragment.sentence, List.filter_cons, hblank]

end Plain

variable {t : Target}

theorem union_of_operand {c : Clause SubSelect} {o : SetOperator × SubSelect} {sql : String}
    (hc : operand? c = some o) (hsql : o.2.select = .ok sql) :
    union t c.item = .ok (o.1.text ++ " " ++ sql : String) := by
  unfold operand? at hc
  split at hc
  · next operation all query hitem =>
    obtain rfl := Option.some.inj hc
    rw [hitem, union, hsql]
    apply congrArg Except.ok
    cases all <;> simp [SetOperator.text, Fragment.coe_append, String.append_assoc]
  · cases hc

end Sql

section Written

variable {t : Target}

namespace Block.IsCombination

variable {b : Block Query} (h : b.IsCombination t.engine)

include h

theorem visible_eq_nil {component : String} (hc : component ∉ ["from", "union"]) :
    visible b.clauses component t.engine = [] := by
  refine List.filter_eq_nil_iff.mpr fun c hmem hseen => ?_
  simp only [Bool.and_eq_true, beq_iff_eq] at hseen
  obtain ⟨rfl, hseen⟩ := hseen
  rcases h.clauses c hmem hseen with ⟨hfrom, -⟩ | ⟨hunion, -⟩
  · exact hc (by simp [hfrom])
  · exact hc (by simp [hunion])

theorem isSome_operand? : ∀ c ∈ visible b.clauses "union" t.engine, (operand? c).isSome := by
  intro c hc
  obtain ⟨hmem, hseen⟩ := List.mem_filter.mp hc
  simp only [Bool.and_eq_true, beq_iff_eq] at hseen
  rcases h.clauses c hmem hseen.2 with ⟨hfrom, -⟩ | ⟨-, hoperand⟩
  · rw [hseen.1] at hfrom
    exact absurd hfrom (by decide)
  · exact hoperand

theorem pathJoins_eq_nil : pathJoins t b.clauses = [] := by
  rw [pathJoins_eq_nil_iff]
  rintro c hmem j ⟨hseen, hitem⟩
  rcases h.clauses c hmem hseen with ⟨-, table, htable⟩ | ⟨-, hoperand⟩
  · rw [htable] at hitem
    cases hitem
  · simp [operand?, hitem] at hoperand

end Block.IsCombination

/-- What follows the table: every operation with its operand. -/
theorem separated_operands (d : Dialect) {os : List (SetOperator × SetSequence)} (hos : os ≠ []) :
    " " ++ (Fragment.separated " "
        (os.map fun o => (o.1.text ++ " " ++ o.2.text d : String))).text =
      SetSequence.restText d (os.flatMap SetSequence.behind) := by
  have hone (o : SetOperator × SetSequence) : " " ++ (o.1.text ++ " " ++ o.2.text d) =
      SetSequence.restText d (SetSequence.behind o) := by
    simp only [SetSequence.behind, SetSequence.restText, SetSequence.text, String.append_assoc]
  induction os with
  | nil => exact absurd rfl hos
  | cons o os ih =>
    rw [List.flatMap_cons, SetSequence.restText_append, ← hone]
    cases os with
    | nil => exact String.append_empty.symm
    | cons o' os =>
      rw [← ih (List.cons_ne_nil o' os), List.map_cons, List.map_cons, Fragment.separated]
      simp only [Fragment.text_append, String.append_assoc]

theorem SetOperator.starts_text (o : SetOperator) : Starts o.text := by
  have hkeyword : ∀ operation, Starts (Sql.setKeyword operation) := by
    rintro (_ | _ | _)
    · exact ⟨'U', "NION".toList, by decide, by decide⟩
    · exact ⟨'I', "NTERSECT".toList, by decide, by decide⟩
    · exact ⟨'E', "XCEPT".toList, by decide, by decide⟩
  exact (hkeyword o.operation).append _

/-- The three parts of a select, with one space between them. -/
theorem sentence_combination (d : Dialect) (b : TableBody) (os : List (SetOperator × SetSequence))
    (hos : ∀ o ∈ os, Solid (o.2.text d)) :
    Fragment.sentence
      [("SELECT " ++ (if b.isDistinct then "DISTINCT " else "") ++ "*" : String),
        ("FROM " ++ d.identifier b.table : String),
        .separated " " (os.map fun o => (o.1.text ++ " " ++ o.2.text d : String))] =
      ⟨(SetSequence.mk b (os.flatMap SetSequence.behind)).text d, []⟩ := by
  have hcolumns : Solid ("SELECT " ++ (if b.isDistinct then "DISTINCT " else "") ++ "*") := by
    cases b.isDistinct <;> exact ⟨by decide, by decide⟩
  have htable : strip ("FROM " ++ d.identifier b.table) ≠ "" :=
    (Starts.append ⟨'F', "ROM ".toList, by decide, by decide⟩ _).inked.strip.ne_empty
  have hoperands : os ≠ [] → Solid (Fragment.separated " "
      (os.map fun o => (o.1.text ++ " " ++ o.2.text d : String))).text := by
    intro hne
    refine solid_separated (fun hnil => hne (List.map_eq_nil_iff.mp hnil)) fun f hf => ?_
    obtain ⟨o, ho, rfl⟩ := List.mem_map.mp hf
    exact solid_of_ends (o.1.starts_text.append " ") (hos o ho).ends
  ext1
  · simp only [Fragment.sentence, List.map_cons, List.map_nil, Fragment.strip, hcolumns.strip]
    rw [List.filter_cons_of_pos (by simp), List.filter_cons_of_pos (by simpa using htable)]
    cases os with
    | nil =>
      have hblank : strip (Fragment.separated " " []).text = "" := by decide
      rw [List.map_nil, List.filter_cons_of_neg (by simpa using hblank)]
      simp [Fragment.separated, SetSequence.text, SetSequence.restText, TableBody.text,
        String.append_assoc]
    | cons o os =>
      have hsolid := hoperands (List.cons_ne_nil o os)
      rw [hsolid.strip, List.filter_cons_of_pos (by simpa using hsolid.nonempty),
        SetSequence.text, ← separated_operands d (List.cons_ne_nil o os)]
      simp [Fragment.separated, TableBody.text, String.append_assoc]
  · have hnone : (Fragment.separated " "
        (os.map fun o => (o.1.text ++ " " ++ o.2.text d : String))).bindings = [] := by
      rw [Fragment.bindings_separated, List.flatMap_map]
      exact List.flatMap_eq_nil_iff.mpr fun o _ => rfl
    simp [Fragment.sentence, hnone]

theorem Sql.mapM_union {cs : List (Clause Query)} {f : Query → String}
    (hcs : ∀ c ∈ cs, (operand? c).isSome)
    (hsql : ∀ o ∈ cs.filterMap operand?, (o.2.subSelect t).select = .ok (f o.2 : String)) :
    ((cs.map (Scoped.map (Body.map (Query.subSelect t)))).mapM fun c => union t c.item) =
      .ok ((cs.filterMap operand?).map fun o => (o.1.text ++ " " ++ f o.2 : String)) := by
  induction cs with
  | nil => rfl
  | cons c cs ih =>
    obtain ⟨hc, hcs⟩ := List.forall_mem_cons.mp hcs
    obtain ⟨o, ho⟩ := Option.isSome_iff_exists.mp hc
    rw [List.filterMap_cons_some ho] at hsql ⊢
    obtain ⟨hone, hsql⟩ := List.forall_mem_cons.mp hsql
    have hmapped :
        operand? (c.map (Body.map (Query.subSelect t))) = some (o.1, o.2.subSelect t) := by
      rw [Block.operand?_map, ho]
      rfl
    rw [List.map_cons, List.mapM_cons, union_of_operand hmapped hone, ih hcs hsql]
    rfl

/-- Every such select is compiled, to its bodies in the order of its text. -/
theorem Query.select_combination {q : Query} (hq : q.Combines t.engine) :
    (q.subSelect t).select = .ok ((q.sequence t.engine).text t.dialect : String) := by
  induction hq with
  | @intro q hblock hoperands ih =>
    obtain ⟨table, htable⟩ := hblock.table
    have hsolid : ∀ o ∈ (q.block.operands t.engine).map fun o => (o.1, o.2.sequence t.engine),
        Solid (o.2.text t.dialect) := by
      intro o ho
      obtain ⟨operand, hoperand, rfl⟩ := List.mem_map.mp ho
      have hselect := ih operand hoperand
      rw [subSelect_eq] at hselect
      exact Sql.solid_select hselect
    have hunions := Sql.mapM_union (f := fun q => (q.sequence t.engine).text t.dialect)
      hblock.isSome_operand? ih
    have hother : ∀ component ∉ ["from", "union"],
        visible (q.block.map (Query.subSelect t)).clauses component t.engine = [] := by
      intro component hc
      rw [Block.map, visible_map, hblock.visible_eq_nil hc, List.map_nil]
    have hfrom : effectiveItem (q.block.map (Query.subSelect t)).clauses "from" t.engine =
        some (.table (.named table)) := by
      rw [Block.map, effectiveItem_map, htable]
      rfl
    have hbody : q.block.tableBody t.engine = ⟨q.block.isDistinct, table⟩ := by
      rw [Block.tableBody, htable]
    have hplain : pathJoins t (q.block.map (Query.subSelect t)).clauses = [] :=
      (pathJoins_map _).trans hblock.pathJoins_eq_nil
    have hrest : Sql.unionPart t (q.block.map (Query.subSelect t)).clauses =
        .ok (.separated " " ((q.block.operands t.engine).map fun o =>
          (o.1.text ++ " " ++ (o.2.sequence t.engine).text t.dialect : String))) := by
      rw [Sql.unionPart, Block.map, visible_map, hunions]
      rfl
    have hsentence := sentence_combination t.dialect ⟨q.block.isDistinct, table⟩ _ hsolid
    rw [List.map_map, List.flatMap_map] at hsentence
    rw [subSelect_eq, Sql.subSelect, Sql.select, expandPaths_of_pathJoins_eq_nil hplain,
      sequence_eq, hbody]
    exact (Sql.selectExpanded_plain hother hfrom hrest).trans (congrArg Except.ok hsentence)

end Written

section Main

variable {t : Target} {q : Query}

/-- A select of a table with set operations, whose operands are such selects again, is always
compiled: to the bodies in the order of its text, with an operation in front of each and no
parentheses. If the operations of every operand regroup with the one in front of it, then the bodies
give, from left to right, the rows that the query stands for, whatever rows the tables hold. With
one operand, over tables that are all different, they do so in no other case. With several they may:
in `a UNION (b UNION ALL c) UNION d` the last UNION drops again what ALL keeps. -/
theorem combination_compiled (hselect : q.block.method = .select) (hq : q.Combines t.engine) :
    q.compile t = .ok ((q.sequence t.engine).text t.dialect : String) ∧
      (q.Regroups t.engine → ∀ (Row : Type) [DecidableEq Row] (rows : TableBody → Multiset Row),
        (q.sequence t.engine).evaluate rows = q.meaning t.engine rows) ∧
      ∀ o, q.block.operands t.engine = [o] → o.2.Regroups t.engine →
        (q.sequence t.engine).bodies.Nodup →
        (∀ (Row : Type) [DecidableEq Row] (rows : TableBody → Multiset Row),
          (q.sequence t.engine).evaluate rows = q.meaning t.engine rows) →
        q.Regroups t.engine := by
  have hcte : visible q.block.clauses "cte" t.engine = [] := by
    cases hq with
    | intro hblock _ => exact hblock.visible_eq_nil (by decide)
  refine ⟨?_, ?_, fun o => Query.regroups_of_evaluate⟩
  · rw [Query.compile_eq_select hselect hcte]
    exact Query.select_combination hq
  · intro hregroups Row _ rows
    exact Query.evaluate_sequence rows hregroups

end Main

/-- A select of a table, with set operations and their operands. -/
def Query.ofTable (table : String) (operands : List (SetOperator × Query)) : Query :=
  .ofBlock ⟨⟨"from", wildcard, .table (.named table)⟩ :: operands.map fun o =>
    ⟨"union", wildcard, .union (.operand o.1.operation o.1.all o.2)⟩, .select, false, none⟩

section OfTable

variable {table engine : String} {os : List (SetOperator × Query)}

theorem Query.operands_ofTable : (ofTable table os).block.operands engine = os := by
  simp [ofTable, block, Block.operands, visible, List.filter_map, List.filterMap_map,
    Function.comp_def, operand?, Scoped.appliesTo]

theorem Query.from_ofTable :
    effectiveItem (ofTable table os).block.clauses "from" engine =
      some (.table (.named table)) := by
  have hvisible : visible (ofTable table os).block.clauses "from" engine =
      [⟨"from", wildcard, .table (.named table)⟩] := by
    simp [ofTable, block, visible, List.filter_map, Function.comp_def, Scoped.appliesTo]
  rw [effectiveItem, effective, hvisible, List.find?_singleton]
  split <;> rfl

theorem Query.combines_ofTable_iff :
    (ofTable table os).Combines engine ↔ ∀ o ∈ os, o.2.Combines engine := by
  constructor
  · rintro ⟨-, hoperands⟩
    rwa [operands_ofTable] at hoperands
  · intro h
    refine .intro ⟨⟨table, from_ofTable⟩, ?_⟩ (by rwa [operands_ofTable])
    intro c hc _
    rcases List.mem_cons.mp hc with rfl | hc
    · exact .inl ⟨rfl, table, rfl⟩
    · obtain ⟨o, -, rfl⟩ := List.mem_map.mp hc
      exact .inr ⟨rfl, rfl⟩

theorem Query.regroups_ofTable_iff :
    (ofTable table os).Regroups engine ↔
      ∀ o ∈ os, o.1.Regroups (o.2.sequence engine).operators ∧ o.2.Regroups engine := by
  constructor
  · rintro ⟨hoperators, hoperands⟩
    rw [operands_ofTable] at hoperators hoperands
    exact fun o ho => ⟨hoperators o ho, hoperands o ho⟩
  · intro h
    refine .intro ?_ ?_ <;> rw [operands_ofTable]
    · exact fun o ho => (h o ho).1
    · exact fun o ho => (h o ho).2

end OfTable

/-- Everyone on some list, less those whose mail is returned. -/
def recipients : Query :=
  .ofTable "members" [(⟨.union, false⟩, .ofTable "guests" [(⟨.union, true⟩, .ofTable "staff" []),
    (⟨.union, false⟩, .ofTable "press" [])]), (⟨.except, false⟩, .ofTable "returned" [])]

theorem recipients_combined :
    recipients.compile ⟨.sqlite, {}⟩ = .ok
        ⟨"SELECT * FROM \"members\" UNION SELECT * FROM \"guests\" " ++
          "UNION ALL SELECT * FROM \"staff\" UNION SELECT * FROM \"press\" " ++
          "EXCEPT SELECT * FROM \"returned\"", []⟩ ∧
      ∀ (Row : Type) [DecidableEq Row] (rows : TableBody → Multiset Row),
        (recipients.sequence "sqlite").evaluate rows = recipients.meaning "sqlite" rows := by
  have hcombines : recipients.Combines "sqlite" := by
    simp [recipients, Query.combines_ofTable_iff]
  have hregroups : recipients.Regroups "sqlite" := by
    simp only [recipients, Query.regroups_ofTable_iff, List.forall_mem_cons, List.not_mem_nil,
      false_imp_iff, implies_true, and_true]
    decide +kernel
  obtain ⟨hcompile, hrows, -⟩ := combination_compiled (t := ⟨.sqlite, {}⟩) rfl hcombines
  refine ⟨hcompile.trans (congrArg Except.ok (Fragment.ext ?_ rfl)), hrows hregroups⟩
  decide +kernel

/-- Members whose mail is not returned, or no longer. -/
def reachable : Query :=
  .ofTable "members" [(⟨.except, false⟩,
    .ofTable "returned" [(⟨.except, false⟩, .ofTable "moved" [])])]

/-- A difference within a difference becomes a second difference. -/
theorem reachable_flattened :
    reachable.Combines "postgres" ∧ reachable.compile ⟨.postgres, {}⟩ = .ok
        ⟨"SELECT * FROM \"members\" EXCEPT SELECT * FROM \"returned\" " ++
          "EXCEPT SELECT * FROM \"moved\"", []⟩ ∧
      (reachable.sequence "postgres").evaluate (fun _ => {()}) = 0 ∧
      reachable.meaning "postgres" (fun _ => {()}) = {()} := by
  have hcombines : reachable.Combines "postgres" := by
    simp [reachable, Query.combines_ofTable_iff]
  have hcompile := (Query.compile_eq_select (t := ⟨.postgres, {}⟩) rfl rfl).trans
    (Query.select_combination hcombines)
  refine ⟨hcombines, hcompile.trans (congrArg Except.ok (Fragment.ext ?_ rfl)), ?_, ?_⟩ <;>
    decide +kernel

end PolySql
