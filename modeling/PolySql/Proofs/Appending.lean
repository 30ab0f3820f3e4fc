import PolySql.Proofs.Flattening
import PolySql.Proofs.Leaf

/-!
Lists of conditions, put one behind the other. Main statement: what is written for both lists in a
row is what is written for each, connected as the second list asks, and bindings follow bindings.
-/

namespace PolySql

namespace Sql

variable (d : Dialect)

/-- The terms of the conditions that the dialect sees. -/
def seenTerms (cs : List (Clause SubSelect)) : Except CompileError (List Term) :=
  (cs.filter (·.appliesTo d.name)).mapM (clauseTerm d)

/-- A list of conditions as one expression. -/
def expression (cs : List (Clause SubSelect)) : Except CompileError Fragment :=
  connect "" <$> seenTerms d cs

theorem seenTerms_append (xs ys : List (Clause SubSelect)) :
    seenTerms d (xs ++ ys) = do
      let terms ← seenTerms d xs
      let more ← seenTerms d ys
      return terms ++ more := by
  rw [seenTerms, List.filter_append, List.mapM_append]
  rfl

theorem seenTerms_of_unseen {c : Clause SubSelect} (hc : ¬ c.appliesTo d.name)
    (cs : List (Clause SubSelect)) : seenTerms d (c :: cs) = seenTerms d cs := by
  rw [seenTerms, List.filter_cons, if_neg hc, ← seenTerms]

theorem seenTerms_of_seen {c : Clause SubSelect} (hc : c.appliesTo d.name)
    (cs : List (Clause SubSelect)) :
    seenTerms d (c :: cs) = do
      let term ← clauseTerm d c
      let terms ← seenTerms d cs
      return term :: terms := by
  rw [seenTerms, List.filter_cons, if_pos hc, List.mapM_cons]
  rfl

/-- Members of a group, or conditions of a join, are an expression as any list of conditions. -/
theorem connect_memberTerms (members : List (Scoped (Condition SubSelect))) :
    connect "" <$> memberTerms d members =
      expression d (members.map (Scoped.map .condition)) := by
  rw [memberTerms_eq_mapM, expression, seenTerms, List.filter_map]
  rfl

section Terms

/-- The connector of the first term that is not blank. -/
def leading (terms : List Term) : Option Bool := (terms.find? (·.sql.text ≠ "")).map (·.isOr)

variable {terms more : List Term}

theorem leading_cons_of_blank {term : Term} (h : term.sql.text = "") :
    leading (term :: terms) = leading terms := by
  simp [leading, h]

theorem leading_cons_of_ne {term : Term} (h : term.sql.text ≠ "") :
    leading (term :: terms) = some term.isOr := by
  simp [leading, h]

/-- The connector in front of terms, none if all of them are blank. -/
def connector (isOr? : Option Bool) : String :=
  isOr?.elim "" fun isOr => if isOr then " OR " else " AND "

/-- Behind other terms, a list of terms shows its leading connector. -/
theorem connectFrom_true_eq (terms : List Term) :
    connectFrom "" true terms = connector (leading terms) ++ connect "" terms := by
  induction terms with
  | nil => rfl
  | cons term rest ih =>
    rw [connect, connectFrom, connectFrom]
    by_cases hterm : term.sql.text = ""
    · rw [if_pos hterm, if_pos hterm, ih, leading_cons_of_blank hterm]
      -- A blank term has no text, so only its bindings move behind the connector.
      ext1 <;> simp [hterm, connect]
    · rw [if_neg hterm, if_neg hterm, leading_cons_of_ne hterm]
      ext1 <;> simp [connector, String.append_assoc]

theorem text_connect_eq_empty_iff : (connect "" terms).text = "" ↔ leading terms = none := by
  induction terms with
  | nil => simp [connect, connectFrom, leading]
  | cons term rest ih =>
    rw [connect, connectFrom]
    by_cases hterm : term.sql.text = ""
    · rw [if_pos hterm, leading_cons_of_blank hterm, ← ih, Fragment.text_append, hterm,
        String.empty_append, connect]
    · rw [if_neg hterm, leading_cons_of_ne hterm]
      simp [String.append_eq_empty_iff, hterm]

theorem connectFrom_append (lead : String) (started : Bool) (terms more : List Term) :
    connectFrom lead started (terms ++ more) =
      connectFrom lead started terms ++
        connectFrom lead (started || (leading terms).isSome) more := by
  induction terms generalizing started with
  | nil => simp [connectFrom, leading]
  | cons term rest ih =>
    rw [List.cons_append, connectFrom, connectFrom]
    by_cases hterm : term.sql.text = ""
    · rw [if_pos hterm, if_pos hterm, leading_cons_of_blank hterm, ih, Fragment.append_assoc]
    · rw [if_neg hterm, if_neg hterm, leading_cons_of_ne hterm, ih]
      simp [Fragment.append_assoc]

/-- Two lists are connected only if neither is blank. -/
theorem connect_append (terms more : List Term) :
    connect "" (terms ++ more) =
      connect "" terms ++
        (if leading terms = none then "" else connector (leading more) : String) ++
        connect "" more := by
  rw [connect, connectFrom_append, ← connect, Fragment.append_assoc]
  refine congrArg _ ?_
  cases leading terms with
  | none => simp only [Option.isSome_none, Bool.or_false, if_true]; ext1 <;> simp [connect]
  | some isOr => simpa using connectFrom_true_eq more

theorem bindings_connect_append (terms more : List Term) :
    (connect "" (terms ++ more)).bindings =
      (connect "" terms).bindings ++ (connect "" more).bindings := by
  simp only [bindings_connect, List.flatMap_append]

/-- The first term of a list shows no connector. -/
theorem connect_cons_congr {term term' : Term} (h : term.sql = term'.sql) (rest : List Term) :
    connect "" (term :: rest) = connect "" (term' :: rest) := by
  rw [connect, connectFrom, connect, connectFrom, h]
  simp

/-- Nor does the first one behind blank terms. -/
theorem connect_append_cons_congr {term term' : Term} (hterms : leading terms = none)
    (h : term.sql = term'.sql) (rest : List Term) :
    connect "" (terms ++ term :: rest) = connect "" (terms ++ term' :: rest) := by
  have hfirst := connect_cons_congr h rest
  rw [connect, connectFrom_append, hterms, connect, connectFrom_append, hterms]
  exact congrArg _ hfirst

end Terms

end Sql

namespace Shared

open Writer

/-- The loop over a list of conditions writes the expression that is compiled from them. -/
theorem build_eq_emit (t : Target) (cs : List (Clause Query)) :
    build t.dialect (Query.nestedAll t cs) =
      emit (Sql.expression t.dialect (Query.compiledAll t cs)) := by
  have hseen : seenTerms t.dialect (Query.nestedAll t cs) =
      emitTerms (Sql.seenTerms t.dialect (Query.compiledAll t cs)) := by
    rw [Query.nestedAll_eq, seenTerms, shareAll, List.filter_map]
    exact mapM_clauseTerm_eq t.dialect _
  rw [build_eq, hseen]
  exact emitWith_map (text_connect "") (bindings_connect "")

end Shared

section Shows

/-- The target sees the clause, and the term is what it comes out as. -/
def Shows (t : Target) (c : Clause Query) (term : Sql.Term) : Prop :=
  c.appliesTo t.engine ∧
    Sql.clauseTerm t.dialect (c.map (Body.map (Query.subSelect t))) = .ok term

/-- Of the clauses that the target sees, all come out blank. -/
def AllBlank (t : Target) (cs : List (Clause Query)) : Prop :=
  ∀ c ∈ cs, c.appliesTo t.engine → ∃ term, Shows t c term ∧ term.sql.text = ""

/-- The first condition that the target sees and that does not come out blank has this connector. -/
def LedBy (t : Target) (cs : List (Clause Query)) (isOr : Bool) : Prop :=
  ∃ front c back cond term, cs = front ++ c :: back ∧ AllBlank t front ∧ Shows t c term ∧
    term.sql.text ≠ "" ∧ c.item = .condition cond ∧ cond.flags.isOr = isOr

variable {t : Target} {c : Clause Query} {cs : List (Clause Query)} {term : Sql.Term}
  {terms : List Sql.Term} {isOr : Bool}

theorem Shows.connector (h : Shows t c term) :
    ∃ cond, c.item = .condition cond ∧ cond.flags.isOr = term.isOr := by
  obtain ⟨component, engine, b⟩ := c
  obtain ⟨-, h⟩ := h
  cases b with
  | condition cond =>
    obtain ⟨f, -, rfl⟩ := exists_of_bind_pure h
    exact ⟨cond, rfl, by simp⟩
  | _ => cases h

theorem Shows.solid (h : Shows t c term) (hne : term.sql.text ≠ "") : Solid term.sql.text :=
  ⟨hne, congrArg Fragment.text (strip_clauseTerm h.2)⟩

theorem LedBy.cons (hc : AllBlank t [c]) (h : LedBy t cs isOr) : LedBy t (c :: cs) isOr := by
  obtain ⟨front, d, back, cond, term, rfl, hfront, hd⟩ := h
  exact ⟨c :: front, d, back, cond, term, rfl,
    List.forall_mem_cons.mpr ⟨hc c List.mem_cons_self, hfront⟩, hd⟩

/-- Terms belong to the conditions that are seen, one by one. -/
theorem forall₂_shows (h : Sql.seenTerms t.dialect (Query.compiledAll t cs) = .ok terms) :
    List.Forall₂ (Shows t) (cs.filter (·.appliesTo t.engine)) terms := by
  rw [Sql.seenTerms, Query.compiledAll, List.filter_map] at h
  have hterms := List.forall₂_map_left_iff.mp (mapM_eq_ok_iff.mp h)
  exact (List.forall₂_and_left _ _).mpr ⟨fun c hc => (List.mem_filter.mp hc).2, hterms⟩

/-- The leading connector of the terms is that of the leading condition. -/
theorem ledBy_of_leading (h : Sql.seenTerms t.dialect (Query.compiledAll t cs) = .ok terms)
    (hleading : Sql.leading terms = some isOr) : LedBy t cs isOr := by
  induction cs generalizing terms with
  | nil =>
    obtain rfl := Except.ok.inj h
    cases hleading
  | cons c rest ih =>
    by_cases hc : c.appliesTo t.engine
    · rw [Query.compiledAll, List.map_cons, Sql.seenTerms_of_seen _ hc] at h
      obtain ⟨term, hterm, h⟩ := exists_of_bind_ok h
      obtain ⟨more, hmore, rfl⟩ := exists_of_bind_pure h
      have hshows : Shows t c term := ⟨hc, hterm⟩
      by_cases hblank : term.sql.text = ""
      · rw [Sql.leading_cons_of_blank hblank] at hleading
        exact (ih hmore hleading).cons
          (List.forall_mem_singleton.mpr fun _ => ⟨term, hshows, hblank⟩)
      · rw [Sql.leading_cons_of_ne hblank] at hleading
        obtain ⟨cond, hitem, hcond⟩ := hshows.connector
        exact ⟨[], c, rest, cond, term, rfl, by simp [AllBlank], hshows, hblank, hitem,
          hcond.trans (Option.some.inj hleading)⟩
    · rw [Query.compiledAll, List.map_cons, Sql.seenTerms_of_unseen _ hc] at h
      exact (ih h hleading).cons (List.forall_mem_singleton.mpr fun hseen => absurd hseen hc)

theorem AllBlank.leading (hblank : AllBlank t cs) :
    ∃ terms, Sql.seenTerms t.dialect (Query.compiledAll t cs) = .ok terms ∧
      Sql.leading terms = none := by
  induction cs with
  | nil => exact ⟨[], rfl, rfl⟩
  | cons c rest ih =>
    obtain ⟨hc, hrest⟩ := List.forall_mem_cons.mp hblank
    obtain ⟨terms, hterms, hnone⟩ := ih hrest
    by_cases hseen : c.appliesTo t.engine
    · obtain ⟨term, ⟨-, hterm⟩, hempty⟩ := hc hseen
      refine ⟨term :: terms, ?_, by rw [Sql.leading_cons_of_blank hempty, hnone]⟩
      rw [Query.compiledAll, List.map_cons, Sql.seenTerms_of_seen _ hseen, hterm, hterms]
      rfl
    · exact ⟨terms, (Sql.seenTerms_of_unseen _ hseen _).trans hterms, hnone⟩

end Shows

section Connector

variable {Q : Type}

def Condition.connectedBy (isOr : Bool) : Condition Q → Condition Q
  | .test flags t => .test { flags with isOr } t
  | .group flags members => .group { flags with isOr } members

/-- The clause with another connector, if it is a condition. -/
def Clause.connectedBy (isOr : Bool) (c : Clause Q) : Clause Q :=
  match c.item with
  | .condition cond => { c with item := .condition (cond.connectedBy isOr) }
  | _ => c

theorem appliesTo_connectedBy (isOr : Bool) (c : Clause Q) (engine : String) :
    (Clause.connectedBy isOr c).appliesTo engine = c.appliesTo engine := by
  unfold Clause.connectedBy
  split <;> rfl

/-- The connector of a condition is not part of what it comes out as. -/
theorem condition_connectedBy (d : Dialect) (isOr : Bool) (cond : Condition SubSelect) :
    Sql.condition d (cond.connectedBy isOr) = Sql.condition d cond := by
  cases cond <;> simp only [Condition.connectedBy, Sql.condition]

theorem Condition.connectedBy_map {R : Type} (f : Q → R) (isOr : Bool) (cond : Condition Q) :
    (cond.connectedBy isOr).map f = (cond.map f).connectedBy isOr := by
  cases cond <;> simp only [Condition.connectedBy, Condition.map]

theorem clauseTerm_connectedBy (t : Target) (isOr : Bool) (c : Clause Query) :
    Sql.clauseTerm t.dialect ((Clause.connectedBy isOr c).map (Body.map (Query.subSelect t))) =
      (fun term => ⟨isOr, term.sql⟩) <$>
        Sql.clauseTerm t.dialect (c.map (Body.map (Query.subSelect t))) := by
  obtain ⟨component, engine, b⟩ := c
  cases b with
  | condition cond =>
    simp only [Clause.connectedBy, Scoped.map, Body.map, Sql.clauseTerm,
      Condition.connectedBy_map, condition_connectedBy]
    cases Sql.condition t.dialect (cond.map (Query.subSelect t)) with
    | error e => rfl
    | ok f => cases cond <;> simp [Condition.connectedBy, Condition.map, Condition.flags]
  | _ => rfl

end Connector

section Append

variable {t : Target} {xs ys : List (Clause Query)} {terms more : List Sql.Term}

open Query (compiledAll nestedAll)

theorem seenTerms_of_error {e : CompileError}
    (h : Sql.expression t.dialect (compiledAll t xs) = .error e) :
    Sql.seenTerms t.dialect (compiledAll t xs) = .error e := by
  rw [Sql.expression] at h
  cases hterms : Sql.seenTerms t.dialect (compiledAll t xs) with
  | error e' =>
    rw [hterms] at h
    exact congrArg Except.error (Except.error.inj h)
  | ok terms =>
    rw [hterms] at h
    cases h

theorem exists_seenTerms {A : Fragment}
    (h : Sql.expression t.dialect (compiledAll t xs) = .ok A) :
    ∃ terms, Sql.seenTerms t.dialect (compiledAll t xs) = .ok terms ∧
      A = Sql.connect "" terms := by
  obtain ⟨terms, hterms, rfl⟩ := exists_of_map_ok h
  exact ⟨terms, hterms, rfl⟩

/-- The terms of both lists, one list behind the other. -/
theorem expression_append (t : Target) (xs ys : List (Clause Query)) :
    Sql.expression t.dialect (compiledAll t (xs ++ ys)) = do
      let terms ← Sql.seenTerms t.dialect (compiledAll t xs)
      let more ← Sql.seenTerms t.dialect (compiledAll t ys)
      return Sql.connect "" (terms ++ more) := by
  rw [Sql.expression, compiledAll, List.map_append, Sql.seenTerms_append, map_bind]
  refine bind_congr fun terms => ?_
  rw [map_bind]
  rfl

/-- Between two lists that are not blank stands the connector of the second one. -/
theorem text_connect_append (hys : Sql.seenTerms t.dialect (compiledAll t ys) = .ok more) :
    ((Sql.connect "" terms).text = "" →
        (Sql.connect "" (terms ++ more)).text = (Sql.connect "" more).text) ∧
      ((Sql.connect "" more).text = "" →
        (Sql.connect "" (terms ++ more)).text = (Sql.connect "" terms).text) ∧
      ((Sql.connect "" terms).text ≠ "" → (Sql.connect "" more).text ≠ "" →
        ∃ isOr, LedBy t ys isOr ∧ (Sql.connect "" (terms ++ more)).text =
          (Sql.connect "" terms).text ++ " " ++ (if isOr then "OR " else "AND ") ++
            (Sql.connect "" more).text) := by
  rw [Sql.connect_append, Fragment.text_append, Fragment.text_append]
  refine ⟨fun hterms => ?_, fun hmore => ?_, fun hterms hmore => ?_⟩
  · simp [hterms, Sql.text_connect_eq_empty_iff.mp hterms]
  · simp [hmore, Sql.text_connect_eq_empty_iff.mp hmore, Sql.connector]
  · rw [ne_eq, Sql.text_connect_eq_empty_iff] at hterms
    obtain ⟨isOr, hisOr⟩ := Option.ne_none_iff_exists'.mp
      fun hnone => hmore (Sql.text_connect_eq_empty_iff.mpr hnone)
    refine ⟨isOr, ledBy_of_leading hys hisOr, ?_⟩
    rw [if_neg hterms, hisOr, Sql.connector, Option.elim_some, ← Shared.space_append_connector,
      ← String.append_assoc]

/-- Results that are kept belong to items that are kept. -/
theorem exists_sublist_of_forall₂ {α β : Type} {R : α → β → Prop} {as : List α} {bs : List β}
    (h : List.Forall₂ R as bs) (p : β → Bool) :
    ∃ kept, List.Sublist kept as ∧ List.Forall₂ R kept (bs.filter p) := by
  induction h with
  | nil => exact ⟨[], List.Sublist.refl [], .nil⟩
  | @cons a b as bs hab _ ih =>
    obtain ⟨kept, hkept, hrel⟩ := ih
    by_cases hb : p b
    · rw [List.filter_cons_of_pos hb]
      exact ⟨a :: kept, hkept.cons_cons a, .cons hab hrel⟩
    · rw [List.filter_cons_of_neg hb]
      exact ⟨kept, hkept.cons a, hrel⟩

/-- What is shown are conditions of the list, in their order, and connectors between them. -/
theorem exists_shown (h : Sql.seenTerms t.dialect (compiledAll t xs) = .ok terms) :
    ∃ shown rest, List.Sublist shown xs ∧ List.Forall₂ (Shows t) shown rest ∧
      (∀ term ∈ rest, Solid term.sql.text) ∧
      (Sql.connect "" terms).text = Shared.connected "" (rest.map Shared.shown) := by
  obtain ⟨shown, hsublist, hrel⟩ :=
    exists_sublist_of_forall₂ (forall₂_shows h) (·.sql.text ≠ "")
  refine ⟨shown, _, hsublist.trans List.filter_sublist, hrel, fun term hterm => ?_, ?_⟩
  · obtain ⟨c, -, hc⟩ := exists_mem_of_forall₂ hrel.flip hterm
    have hshows : Shows t c term := hc
    exact hshows.solid (by simpa using (List.mem_filter.mp hterm).2)
  · rw [Shared.text_connect, Shared.connect_eq_connected, List.filter_map]
    rfl

/-- Behind blank conditions, a condition is the first one, and shows no connector. -/
theorem expression_connectedBy {front : List (Clause Query)} (hfront : AllBlank t front)
    (c : Clause Query) (back : List (Clause Query)) (isOr : Bool) :
    Sql.expression t.dialect (compiledAll t (front ++ Clause.connectedBy isOr c :: back)) =
      Sql.expression t.dialect (compiledAll t (front ++ c :: back)) := by
  obtain ⟨blank, hblank, hnone⟩ := hfront.leading
  have hseen : ∀ c : Clause Query, Sql.expression t.dialect (compiledAll t (front ++ c :: back)) =
      (fun more => Sql.connect "" (blank ++ more)) <$>
        Sql.seenTerms t.dialect (compiledAll t (c :: back)) := by
    intro c
    rw [Sql.expression, compiledAll, List.map_append, Sql.seenTerms_append, hblank]
    show Sql.connect "" <$> (Sql.seenTerms t.dialect (compiledAll t (c :: back)) >>= fun more =>
      pure (blank ++ more)) = _
    rw [map_bind]
    rfl
  rw [hseen, hseen]
  by_cases happlies : c.appliesTo t.engine
  · have hother : (Clause.connectedBy isOr c).appliesTo t.engine := by
      rwa [appliesTo_connectedBy]
    rw [compiledAll, List.map_cons, Sql.seenTerms_of_seen _ hother, clauseTerm_connectedBy,
      compiledAll, List.map_cons, Sql.seenTerms_of_seen _ happlies]
    cases Sql.clauseTerm t.dialect (c.map (Body.map (Query.subSelect t))) with
    | error e => rfl
    | ok term =>
      cases Sql.seenTerms t.dialect (compiledAll t back) with
      | error e => rfl
      | ok more =>
        have hterm : (⟨isOr, term.sql⟩ : Sql.Term).sql = term.sql := rfl
        exact congrArg Except.ok (Sql.connect_append_cons_congr hnone hterm more)
  · have hother : ¬ (Clause.connectedBy isOr c).appliesTo t.engine := by
      rwa [appliesTo_connectedBy]
    rw [compiledAll, List.map_cons, Sql.seenTerms_of_unseen _ hother, compiledAll, List.map_cons,
      Sql.seenTerms_of_unseen _ happlies]

end Append

open Query Shared in
/-- What the loop over a list of conditions writes does not hang on what is bound before. Two lists
in a row are refused with the error of the first one, or else of the second one; otherwise the
bindings of the second follow those of the first, a blank list leaves the other one as it is, and
others stand around the connector of the first condition of the second list that is seen and not
blank. What is written are conditions of the list with a connector between any two, and never the
connector of the first one. Groups and joins write their members so. -/
theorem build_append (t : Target) (xs ys : List (Clause Query)) :
    let x := Sql.expression t.dialect (compiledAll t xs)
    let y := Sql.expression t.dialect (compiledAll t ys)
    let write (cs : List (Clause Query)) : Writer String := build t.dialect (nestedAll t cs)
    write xs = Writer.emit x ∧ write ys = Writer.emit y ∧
      (∀ e, x = .error e → write (xs ++ ys) = Writer.emit (.error e)) ∧
      (∀ A e, x = .ok A → y = .error e → write (xs ++ ys) = Writer.emit (.error e)) ∧
      (∀ A B, x = .ok A → y = .ok B → ∃ text,
        write (xs ++ ys) = Writer.emit (.ok ⟨text, A.bindings ++ B.bindings⟩) ∧
          (A.text = "" → text = B.text) ∧ (B.text = "" → text = A.text) ∧
          (A.text ≠ "" → B.text ≠ "" → ∃ isOr, LedBy t ys isOr ∧
            text = A.text ++ " " ++ (if isOr then "OR " else "AND ") ++ B.text)) ∧
      (∀ A, x = .ok A → ∃ shown terms, List.Sublist shown xs ∧
        List.Forall₂ (Shows t) shown terms ∧ (∀ term ∈ terms, Solid term.sql.text) ∧
        A.text = connected "" (terms.map Shared.shown)) ∧
      (∀ front c back isOr, xs = front ++ c :: back → AllBlank t front →
        write (front ++ Clause.connectedBy isOr c :: back) = write xs) ∧
      ∀ members : List (Scoped (Condition Query)), xs = members.map (Scoped.map .condition) →
        Sql.connect "" <$> Sql.memberTerms t.dialect
          (members.map (Scoped.map (Condition.map (Query.subSelect t)))) = x := by
  have hmembers : ∀ members : List (Scoped (Condition Query)),
      xs = members.map (Scoped.map .condition) →
        Sql.connect "" <$> Sql.memberTerms t.dialect
          (members.map (Scoped.map (Condition.map (Query.subSelect t)))) =
            Sql.expression t.dialect (compiledAll t xs) := by
    rintro members rfl
    rw [Sql.connect_memberTerms]
    simp only [compiledAll, List.map_map]
    rfl
  have hfirst : ∀ front c back isOr, xs = front ++ c :: back → AllBlank t front →
      build t.dialect (nestedAll t (front ++ Clause.connectedBy isOr c :: back)) =
        build t.dialect (nestedAll t xs) := by
    rintro front c back isOr rfl hfront
    rw [build_eq_emit, build_eq_emit, expression_connectedBy hfront]
  have hboth := build_eq_emit t (xs ++ ys)
  rw [expression_append] at hboth
  refine ⟨build_eq_emit t xs, build_eq_emit t ys, fun e he => hboth.trans ?_,
    fun A e hA he => hboth.trans ?_, fun A B hA hB => ?_, fun A hA => ?_, hfirst, hmembers⟩
  · rw [seenTerms_of_error he]
    rfl
  · obtain ⟨terms, hterms, -⟩ := exists_seenTerms hA
    rw [hterms, seenTerms_of_error he]
    rfl
  · obtain ⟨terms, hterms, rfl⟩ := exists_seenTerms hA
    obtain ⟨more, hmore, rfl⟩ := exists_seenTerms hB
    refine ⟨_, hboth.trans ?_, text_connect_append hmore⟩
    rw [hterms, hmore, ← Sql.bindings_connect_append]
    rfl
  · obtain ⟨terms, hterms, rfl⟩ := exists_seenTerms hA
    exact exists_shown hterms

/-- Orders of a high total; in front stand a condition of another engine and a group without
members. -/
def highOrders : List (Clause Query) :=
  [⟨"where", "mysql", .condition (.test ⟨false, false⟩ (.isNull "total"))⟩,
    ⟨"where", wildcard, .condition (.group ⟨false, false⟩ [])⟩,
    ⟨"where", wildcard, .condition (.test ⟨true, false⟩ (.compare "total" ">" (.value (.int 5))))⟩]

/-- Orders of few pieces, behind SQL text that is blank. -/
def smallOrders : List (Clause Query) :=
  [⟨"where", wildcard, .condition (.test ⟨false, false⟩ (.verbatim ⟨" ?", [.raw ""]⟩))⟩,
    ⟨"where", wildcard, .condition (.test ⟨true, false⟩ (.compare "n" "<" (.value (.int 2))))⟩]

theorem ledBy_smallOrders {isOr : Bool} (h : LedBy ⟨.sqlite, {}⟩ smallOrders isOr) :
    isOr = true := by
  obtain ⟨front, c, back, cond, term, hsplit, -, ⟨-, hterm⟩, hne, hitem, hcond⟩ := h
  match front with
  | [] =>
    obtain ⟨rfl, -⟩ := List.cons.inj hsplit
    obtain rfl := Except.ok.inj hterm
    exact absurd rfl hne
  | [_] =>
    obtain ⟨rfl, -⟩ := List.cons.inj (List.cons.inj hsplit).2
    obtain rfl := Body.condition.inj hitem
    exact hcond.symm
  | _ :: _ :: _ => simp [smallOrders] at hsplit

set_option maxRecDepth 20000 in
theorem highOrders_append_smallOrders :
    LedBy ⟨.sqlite, {}⟩ smallOrders true ∧
      Shared.build .sqlite (Query.nestedAll ⟨.sqlite, {}⟩ (highOrders ++ smallOrders)) [.int 1] =
        .ok ("\"total\" > ? OR \"n\" < ?", [.int 1, .int 5, .int 2]) ∧
      Shared.build .sqlite (Query.nestedAll ⟨.sqlite, {}⟩
          (highOrders.take 2 ++ [Clause.connectedBy false highOrders[2]])) [.int 1] =
        .ok ("\"total\" > ?", [.int 1, .int 5]) := by
  obtain ⟨hfront, -, -, -, hboth, -, hfirst, -⟩ :=
    build_append ⟨.sqlite, {}⟩ highOrders smallOrders
  have hhigh : Sql.expression .sqlite (Query.compiledAll ⟨.sqlite, {}⟩ highOrders) =
      .ok ⟨"\"total\" > ?", [.int 5]⟩ := by rfl
  have hsmall : Sql.expression .sqlite (Query.compiledAll ⟨.sqlite, {}⟩ smallOrders) =
      .ok ⟨"\"n\" < ?", [.int 2]⟩ := by rfl
  obtain ⟨text, hwrite, -, -, hconnected⟩ := hboth _ _ hhigh hsmall
  obtain ⟨isOr, hled, rfl⟩ := hconnected (by decide) (by decide)
  have hblank : AllBlank ⟨.sqlite, {}⟩ (highOrders.take 2) :=
    List.forall_mem_cons.mpr ⟨fun hseen => absurd hseen (by decide),
      List.forall_mem_singleton.mpr fun _ => ⟨⟨false, ∅⟩, ⟨rfl, rfl⟩, rfl⟩⟩
  have hkept := hfirst (highOrders.take 2) highOrders[2] [] false rfl hblank
  obtain rfl : isOr = true := ledBy_smallOrders hled
  exact ⟨hled, congrFun hwrite [.int 1], (congrFun hkept [.int 1]).trans (congrFun hfront [.int 1])⟩

end PolySql
