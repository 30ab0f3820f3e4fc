import PolySql.Proofs.Parts
import PolySql.Proofs.Removal
import PolySql.Proofs.Window

/-!
Pages of a select. Main statement: a select with a window is the select without it, with the clauses
for the window put in front of the columns or behind the ordering, and these read as the window.
-/

namespace PolySql

open Text

namespace Sql

variable {t : Target} {cs : List (Clause SubSelect)}

section Head

/-- The words in front of a window, or of the columns. -/
def leads : List String := ["SELECT", "SELECT DISTINCT"]

theorem solid_lead {lead : String} (h : lead ∈ leads) : Solid lead := by
  have hleads : ∀ s ∈ leads, s ≠ "" ∧ strip s = s := by decide
  exact ⟨(hleads lead h).1, (hleads lead h).2⟩

/-- The space in front of the columns can be taken for one behind the words. -/
theorem lead_append_topPart (lead : String) {spaced : String} (hspaced : spaced = lead ++ " ")
    (window : Option Window) (rest : Fragment) :
    spaced ++ topPart t window ++ rest = lead ++ t.dialect.inFront window ++ (" " ++ rest) := by
  rw [topPart, Dialect.inFront, hspaced]
  cases window.bind t.dialect.top with
  | none => ext1 <;> simp [String.append_assoc]
  | some top => ext1 <;> simp [String.append_assoc]

variable (isDistinct : Bool)

theorem aggregatePart_spec (hseen : visible cs "aggregate" t.engine ≠ []) :
    (∃ e, ∀ window, aggregatePart t window isDistinct cs = .error e) ∨
    ∃ shown : Fragment, ∀ window, aggregatePart t window isDistinct cs =
      .ok ("SELECT" ++ t.dialect.inFront window ++ (" " ++ shown)) := by
  unfold aggregatePart
  split
  · next hnone => exact absurd ((effectiveItem_eq_none_iff _ _ _).mp hnone) hseen
  · refine .inr (Exists.intro ?_ fun window => ?written)
    case written =>
      have hspaced : "SELECT " = "SELECT" ++ " " := rfl
      simp only [Fragment.append_assoc]
      rw [← Fragment.append_assoc, lead_append_topPart "SELECT" hspaced window,
        Fragment.append_assoc]
  · exact .inl ⟨_, fun window => rfl⟩

theorem columnsPart_spec (hnone : visible cs "aggregate" t.engine = [])
    (hseen : anyVisible cs "select" t.engine) :
    (∃ e, ∀ window, columnsPart t window isDistinct cs = .error e) ∨
    ∃ lead ∈ leads, ∃ shown : Fragment, ∀ window, columnsPart t window isDistinct cs =
      .ok (lead ++ t.dialect.inFront window ++ (" " ++ shown)) := by
  simp only [columnsPart_of_columns hnone hseen]
  cases columns t.dialect (visible cs "select" t.engine) with
  | error e => exact .inl ⟨e, fun window => rfl⟩
  | ok list =>
    refine .inr ⟨if isDistinct then "SELECT DISTINCT" else "SELECT", ?_,
      if list.text = "" then list ++ "*" else list, fun window => ?_⟩
    · cases isDistinct <;> simp [leads]
    · have hspaced : "SELECT " ++ (if isDistinct then "DISTINCT " else "") =
          (if isDistinct then "SELECT DISTINCT" else "SELECT") ++ " " := by
        cases isDistinct <;> rfl
      rw [← lead_append_topPart _ hspaced]
      rfl

/-- A select shows an aggregate or else its columns, and the window writes in front of them. -/
theorem head_spec (hseen : anyVisible cs "select" t.engine) :
    (∃ e, ∀ window, aggregatePart t window isDistinct cs = .error e) ∨
    (∃ e, ∀ window, aggregatePart t window isDistinct cs = .ok ∅ ∧
      columnsPart t window isDistinct cs = .error e) ∨
    ∃ lead ∈ leads, ∃ shown : Fragment, ∀ window, ∃ first second,
      aggregatePart t window isDistinct cs = .ok first ∧
      columnsPart t window isDistinct cs = .ok second ∧
      (first = lead ++ t.dialect.inFront window ++ (" " ++ shown) ∧ second = ∅ ∨
        first = ∅ ∧ second = lead ++ t.dialect.inFront window ++ (" " ++ shown)) := by
  by_cases haggregate : visible cs "aggregate" t.engine = []
  · rcases columnsPart_spec isDistinct haggregate hseen with
      ⟨e, he⟩ | ⟨lead, hlead, shown, hshown⟩
    · exact .inr (.inl ⟨e, fun window => ⟨aggregatePart_of_unseen haggregate, he window⟩⟩)
    · exact .inr (.inr ⟨lead, hlead, shown, fun window =>
        ⟨_, _, aggregatePart_of_unseen haggregate, hshown window, .inr ⟨rfl, rfl⟩⟩⟩)
  · rcases aggregatePart_spec isDistinct haggregate with ⟨e, he⟩ | ⟨shown, hshown⟩
    · exact .inl ⟨e, he⟩
    · exact .inr (.inr ⟨"SELECT", .head _, shown, fun window =>
        ⟨_, _, hshown window, columnsPart_of_aggregate haggregate, .inl ⟨rfl, rfl⟩⟩⟩)

end Head

section Sentence

theorem strip_head {lead : String} (hlead : Solid lead) (window : Option Window)
    (shown : Fragment) :
    (lead ++ t.dialect.inFront window ++ shown : Fragment).strip =
      lead ++ t.dialect.inFront window ++ shown.trimEnd := by
  have hstart : (lead ++ (t.dialect.inFront window ++ shown) : Fragment).trimStart =
      lead ++ (t.dialect.inFront window ++ shown) := by
    have hempty : (∅ : Fragment).trimStart = ∅ := rfl
    simpa [hempty] using hlead.trimStart_append ∅ (t.dialect.inFront window ++ shown) []
  rw [Fragment.strip_eq, Fragment.append_assoc, hstart, Dialect.inFront]
  cases htop : window.bind t.dialect.top with
  | none => simpa using hlead.trimEnd_append ∅ shown []
  | some top =>
    obtain ⟨w, -, hw⟩ := Option.bind_eq_some_iff.mp htop
    simpa only [Fragment.append_assoc] using
      (solid_top w hw).trimEnd_append (lead ++ " ") shown top.bindings

/-- The paging clauses of a select, as parts of its sentence. -/
def pagingParts (t : Target) (window : Option Window) : List Fragment :=
  [(window.bind t.dialect.limit).getD ∅, (window.bind t.dialect.offset).getD ∅]

theorem strip_pagingParts (hd : t.dialect ∈ Dialect.builtin) (window : Option Window) :
    (pagingParts t window).map Fragment.strip = pagingParts t window := by
  cases window with
  | none => rfl
  | some w =>
    rw [pagingParts, List.map_cons, List.map_singleton, Option.bind_some, Option.bind_some,
      strip_getD fun f => solid_limit w hd, strip_getD fun f => solid_offset w hd]

/-- The keywords of a lock, which may be none. -/
def lockText (t : Target) (mode : Option LockMode) : String :=
  (mode.bind t.dialect.lock).getD ""

def lockTexts : List String := ["", "FOR UPDATE", "FOR SHARE"]

theorem lockText_mem (mode : Option LockMode) : lockText t mode ∈ lockTexts := by
  unfold lockText
  cases mode with
  | none => exact .head _
  | some mode =>
    rw [Option.bind_some]
    unfold Dialect.lock
    split <;> simp [lockTexts]

theorem strip_lockText (mode : Option LockMode) :
    Fragment.strip (lockText t mode : String) = (lockText t mode : String) := by
  have hstrip : ∀ s ∈ lockTexts, strip s = s := by decide
  exact Fragment.ext (hstrip _ (lockText_mem mode)) rfl

/-- A sentence whose first part that is not blank is an aggregate or the columns. -/
theorem sentence_select (hd : t.dialect ∈ Dialect.builtin) {lead : String} (hlead : lead ∈ leads)
    (window : Option Window) {shown first second : Fragment}
    (hfirst : first = lead ++ t.dialect.inFront window ++ shown ∧ second = ∅ ∨
      first = ∅ ∧ second = lead ++ t.dialect.inFront window ++ shown)
    (parts : List Fragment) (unions : Fragment) (mode : Option LockMode) :
    Fragment.sentence (first :: second :: parts ++ pagingParts t window ++
        [unions, (lockText t mode : String)]) =
      lead ++ t.dialect.inFront window ++
        (shown.trimEnd ++ .spaced true (parts.map Fragment.strip)) ++ t.dialect.behind window ++
        .spaced true [unions.strip, (lockText t mode : String)] := by
  have hstrip := strip_head (t := t) (solid_lead hlead) window shown
  generalize hhead : (lead ++ t.dialect.inFront window ++ shown : Fragment) = head at hfirst hstrip
  have hne : head.strip.text ≠ "" := by
    rw [hstrip]
    simp [String.append_eq_empty_iff, (solid_lead hlead).nonempty]
  have hsentence : ∀ rest, Fragment.sentence (first :: second :: rest) =
      head.strip ++ .spaced true (rest.map Fragment.strip) := by
    intro rest
    rcases hfirst with ⟨rfl, rfl⟩ | ⟨rfl, rfl⟩
    · rw [Fragment.sentence_cons hne]
      exact congrArg (first.strip ++ ·) (Fragment.empty_append _)
    · rw [Fragment.sentence_empty_cons, Fragment.sentence_cons hne]
  rw [List.cons_append, List.cons_append, List.cons_append, List.cons_append, hsentence, hstrip,
    List.map_append, List.map_append, strip_pagingParts hd, Fragment.spaced_append,
    Fragment.spaced_append, List.map_cons, List.map_singleton, strip_lockText]
  simp only [Fragment.append_assoc]
  rfl

end Sentence

section Window

variable {isDistinct : Bool}

/-- What a select writes behind its columns, up to its window and behind it. -/
def laterParts (t : Target) (cs : List (Clause SubSelect)) :
    Except CompileError (List Fragment × Fragment) := do
  let parts ← [fromPart t cs, joinPart t cs, wherePart t cs, groupPart t cs, havingPart t cs,
    orderPart t cs].mapM id
  let unions ← unionPart t cs
  return (parts, unions)

theorem selectWith_eq {mode : Option LockMode} (hlock : lockOf t cs = .ok mode)
    (window : Option Window) :
    selectWith t window isDistinct cs = do
      let aggregate ← aggregatePart t window isDistinct cs
      let columns ← columnsPart t window isDistinct cs
      let later ← laterParts t cs
      return .sentence (aggregate :: columns :: later.1 ++ pagingParts t window ++
        [later.2, (lockText t mode : String)]) := by
  rw [selectWith, hlock, List.mapM_cons, List.mapM_cons]
  simp only [laterParts, bind_assoc, pure_bind, id_eq]
  rfl

/-- Of a select, nothing hangs on its window but the clauses that are written for it. -/
theorem selectWith_spec (hd : t.dialect ∈ Dialect.builtin)
    (hseen : anyVisible cs "select" t.engine) :
    (∃ e, ∀ window, selectWith t window isDistinct cs = .error e) ∨
    ∃ lead ∈ leads, ∃ lock ∈ lockTexts, ∃ body unions, unionPart t cs = .ok unions ∧
      ∀ window, selectWith t window isDistinct cs =
        .ok (lead ++ t.dialect.inFront window ++ body ++ t.dialect.behind window ++
          .spaced true [unions.strip, (lock : String)]) := by
  cases hlock : lockOf t cs with
  | error e =>
    refine .inl ⟨e, fun window => ?_⟩
    rw [selectWith, hlock]
    rfl
  | ok mode =>
    rcases head_spec isDistinct hseen with ⟨e, he⟩ | ⟨e, he⟩ | ⟨lead, hlead, shown, hshown⟩
    · exact .inl ⟨e, fun window => by rw [selectWith_eq hlock, he]; rfl⟩
    · exact .inl ⟨e, fun window => by rw [selectWith_eq hlock, (he window).1, (he window).2]; rfl⟩
    cases hlater : laterParts t cs with
    | error e =>
      refine .inl ⟨e, fun window => ?_⟩
      obtain ⟨first, second, hfirst, hsecond, -⟩ := hshown window
      rw [selectWith_eq hlock, hfirst, hsecond, hlater]
      rfl
    | ok later =>
      obtain ⟨parts, -, hrest⟩ := exists_of_bind_ok hlater
      obtain ⟨unions, hunions, rfl⟩ := exists_of_bind_pure hrest
      refine .inr ⟨lead, hlead, lockText t mode, lockText_mem mode,
        (" " ++ shown : Fragment).trimEnd ++ .spaced true (parts.map Fragment.strip), unions,
        hunions, fun window => ?_⟩
      obtain ⟨first, second, hfirst, hsecond, hhead⟩ := hshown window
      rw [selectWith_eq hlock, hfirst, hsecond, hlater]
      exact congrArg Except.ok (sentence_select hd hlead window hhead parts unions mode)

/-- Without the clauses of its window a select reads no window, and all else as before. -/
theorem selectExpanded_without :
    selectExpanded t isDistinct (expanded t (cs.filter (!isOf "limit" ·))) =
      selectWith t none isDistinct (withColumns t (expanded t cs)) := by
  have hvisible : ∀ component, component ≠ "limit" →
      visible (withColumns t (expanded t (cs.filter (!isOf "limit" ·)))) component t.engine =
        visible (withColumns t (expanded t cs)) component t.engine := fun component hc =>
    visible_withColumns_congr (visible_expanded_filter_isOf cs (by decide) (by decide))
      (visible_expanded_filter_isOf cs (by decide) hc)
  have hwindow :
      windowOf t (withColumns t (expanded t (cs.filter (!isOf "limit" ·)))) = .ok none := by
    have hlimit := visible_expanded_removed (t := t) cs (by decide : "limit" ≠ "join")
    rw [windowOf, effectiveItem_congr (visible_withColumns (by decide)),
      (effectiveItem_eq_none_iff _ _ _).mpr hlimit]
  rw [selectExpanded_eq, hwindow]
  refine selectWith_congr (fun component hc => ?_) (fun component hc => ?_) none isDistinct
  · apply effective_congr
    apply hvisible
    rintro rfl
    exact absurd hc (by decide)
  · apply hvisible
    rintro rfl
    exact absurd hc (by decide)

theorem select_without :
    select t isDistinct (cs.filter (!isOf "limit" ·)) =
      expandPaths t cs >>= fun ds => selectWith t none isDistinct (withColumns t ds) := by
  rw [select, expandPaths_eq, expandPaths_eq, stranded?_filter_isOf cs (by decide)]
  cases stranded? t cs with
  | some j => rfl
  | none => exact selectExpanded_without

theorem select_eq_of_window {w : Window}
    (hw : effectiveItem cs "limit" t.engine = some (.window w)) :
    select t isDistinct cs =
      expandPaths t cs >>= fun ds => selectWith t (some w) isDistinct (withColumns t ds) := by
  rw [select, expandPaths_eq]
  cases stranded? t cs with
  | some j => rfl
  | none =>
    obtain ⟨c, hc, hitem⟩ := Option.map_eq_some_iff.mp hw
    have hnone : pathJoin? t c = none := by
      rw [pathJoin?, hitem]
    have hwindow : windowOf t (withColumns t (expanded t cs)) = .ok (some w) := by
      rw [windowOf, effectiveItem_congr (visible_withColumns (by decide)), effectiveItem,
        effective_expanded (by decide) hc hnone, Option.map_some, hitem]
    show selectExpanded t isDistinct (expanded t cs) = selectWith t (some w) isDistinct _
    rw [selectExpanded_eq, hwindow]
    rfl

/-- A select with a window, and without the clauses of it: both are refused alike, or they are the
same but for the clauses that are written for the window. -/
theorem select_spec (isDistinct : Bool) (hd : t.dialect ∈ Dialect.builtin) {w : Window}
    (hw : effectiveItem cs "limit" t.engine = some (.window w)) :
    (∃ e, select t isDistinct cs = .error e ∧
      select t isDistinct (cs.filter (!isOf "limit" ·)) = .error e) ∨
    ∃ lead ∈ leads, ∃ lock ∈ lockTexts, ∃ body unions,
      unionPart t (expanded t cs) = .ok unions ∧
      select t isDistinct cs = .ok (lead ++ t.dialect.inFront (some w) ++ body ++
        t.dialect.behind (some w) ++ .spaced true [unions.strip, (lock : String)]) ∧
      select t isDistinct (cs.filter (!isOf "limit" ·)) =
        .ok (lead ++ body ++ .spaced true [unions.strip, (lock : String)]) := by
  rw [select_eq_of_window hw, select_without]
  cases hrun : expandPaths t cs with
  | error e => exact .inl ⟨e, rfl, rfl⟩
  | ok ds =>
    obtain ⟨-, rfl⟩ := expandPaths_eq_ok_iff.mp hrun
    have hseen : anyVisible (withColumns t (expanded t cs)) "select" t.engine :=
      anyVisible_withColumns_select
    have htop : t.dialect.inFront none = ∅ := rfl
    have htail : t.dialect.behind none = ∅ := rfl
    rcases selectWith_spec hd hseen with
      ⟨e, he⟩ | ⟨lead, hlead, lock, hlock, body, unions, hunions, hselect⟩
    · exact .inl ⟨e, he (some w), he none⟩
    · rw [unionPart_congr (visible_withColumns (by decide))] at hunions
      have hwithout := hselect none
      rw [htop, htail, Fragment.append_empty, Fragment.append_empty] at hwithout
      exact .inr ⟨lead, hlead, lock, hlock, body, unions, hunions, hselect (some w), hwithout⟩

end Window

end Sql

namespace Query

/-- The query without the clauses of its window. -/
def withoutWindow (q : Query) : Query := .ofBlock (q.block.without "limit")

variable {t : Target} {q : Query}

theorem compile_of_select (hselect : q.block.method = .select) :
    q.compile t = (do
      let ctes ← Sql.withList t.dialect (q.block.map (subSelect t)).clauses
      let sql ← Sql.select t q.block.isDistinct (q.block.map (subSelect t)).clauses
      return ctes ++ sql) := by
  have hmethod : (q.block.map (subSelect t)).method = .select := hselect
  rw [compile, Sql.statement, hmethod]
  rfl

theorem compile_withoutWindow (hselect : q.block.method = .select) :
    q.withoutWindow.compile t = (do
      let ctes ← Sql.withList t.dialect (q.block.map (subSelect t)).clauses
      let sql ← Sql.select t q.block.isDistinct
        ((q.block.map (subSelect t)).clauses.filter (!isOf "limit" ·))
      return ctes ++ sql) := by
  have hblock : q.withoutWindow.block.map (subSelect t) =
      (q.block.map (subSelect t)).without "limit" := (Block.without_map "limit" q.block).symm
  have hctes : visible ((q.block.map (subSelect t)).clauses.filter (!isOf "limit" ·)) "cte"
      t.engine = visible (q.block.map (subSelect t)).clauses "cte" t.engine :=
    visible_filter_isOf (by decide) _ _
  rw [compile_of_select (q := q.withoutWindow) hselect, hblock, ← Sql.withList_congr hctes]
  rfl

end Query

/-- A select shows the rows that its window asks for. It is the select without the clauses of the
window, or is refused as that one is, with two fragments put in: in front of the columns or the
aggregate, and behind the ordering. Read as each built-in dialect does, they skip and take as many
rows as the window says where it says a positive number. They bind these numbers, each once, and one
of the two is empty; both are where neither number is positive. A path join among the clauses of the
window becomes joins, and so it stays. -/
theorem window_denoted {t : Target} {q : Query} {w : Window} (hd : t.dialect ∈ Dialect.builtin)
    (hselect : q.block.method = .select)
    (hw : effectiveItem q.block.clauses "limit" t.engine = some (.window w)) :
    (∀ e, q.compile t = .error e ↔ q.withoutWindow.compile t = .error e) ∧
    (w.limit.getD 0 ≤ 0 → w.offset.getD 0 ≤ 0 → q.compile t = q.withoutWindow.compile t) ∧
    ∀ f, q.compile t = .ok f → ∃ ctes body unions top tail : Fragment, ∃ lead lock : String,
      Sql.withList t.dialect (q.block.map (Query.subSelect t)).clauses = .ok ctes ∧
      lead ∈ Sql.leads ∧
      Sql.unionPart t (expanded t (q.block.map (Query.subSelect t)).clauses) = .ok unions ∧
      lock ∈ Sql.lockTexts ∧
      f = ctes ++ (lead ++ top ++ body ++ tail ++ .spaced true [unions.strip, lock]) ∧
      q.withoutWindow.compile t =
        .ok (ctes ++ (lead ++ body ++ .spaced true [unions.strip, lock])) ∧
      t.dialect.readRows top tail = some w.rows ∧
      (top.bindings ++ tail.bindings).Perm
        (Dialect.counted w.take? ++ Dialect.counted w.skip?) ∧
      (top = ∅ ∨ tail = ∅) := by
  have hmapped : effectiveItem (q.block.map (Query.subSelect t)).clauses "limit" t.engine =
      some (.window w) := by
    rw [Block.map, effectiveItem_map, hw]
    rfl
  rw [Query.compile_of_select hselect, Query.compile_withoutWindow hselect]
  cases Sql.withList t.dialect (q.block.map (Query.subSelect t)).clauses with
  | error e =>
    exact ⟨fun e' => Iff.rfl, fun _ _ => rfl, fun f hf => by cases hf⟩
  | ok ctes =>
    rcases Sql.select_spec q.block.isDistinct hd hmapped with
      ⟨e, he, he'⟩ | ⟨lead, hlead, lock, hlock, body, unions, hunions, hwith, hwithout⟩
    · rw [he, he']
      exact ⟨fun e' => Iff.rfl, fun _ _ => rfl, fun f hf => by cases hf⟩
    · rw [hwith, hwithout]
      refine ⟨fun e => ?_, fun hlimit hoffset => ?_, fun f hf => ?_⟩
      · exact iff_of_false (fun h => by cases h) fun h => by cases h
      · obtain ⟨htop, htail⟩ := window_eq_empty (d := t.dialect) w hlimit hoffset
        rw [htop, htail, Fragment.append_empty, Fragment.append_empty]
      · obtain rfl := Except.ok.inj hf
        exact ⟨ctes, body, unions, _, _, lead, lock, rfl, hlead, hunions, hlock, rfl, rfl,
          readRows_window w hd, bindings_window_perm w, inFront_eq_empty_or_behind_eq_empty w⟩

/-- The names of users in order, without repetition, and the given clauses for their window. -/
def userNames (windows : List (Clause Query)) : Query :=
  .ofBlock ⟨[⟨"from", wildcard, .table (.named "users")⟩,
    ⟨"select", wildcard, .column (.named "name")⟩,
    ⟨"order", wildcard, .order (.column "name" true)⟩] ++ windows, .select, true, none⟩

set_option maxRecDepth 20000 in
/-- A page of names, under another one that gives way to it. -/
theorem userNames_page :
    (userNames [⟨"limit", wildcard, .window ⟨some 5, none⟩⟩,
        ⟨"limit", "sqlserver", .window ⟨some 10, some 20⟩⟩]).compile ⟨.sqlServer, {}⟩ =
      .ok ⟨"SELECT DISTINCT [name] FROM [users] ORDER BY [name] " ++
        "OFFSET ? ROWS FETCH NEXT ? ROWS ONLY", [.int 20, .int 10]⟩ ∧
    (userNames []).compile ⟨.sqlServer, {}⟩ =
      .ok ⟨"SELECT DISTINCT [name] FROM [users] ORDER BY [name]", []⟩ ∧
    ∃ top tail, Dialect.sqlServer.readRows top tail = some ⟨20, some 10⟩ ∧
      (top.bindings ++ tail.bindings).Perm [.int 10, .int 20] ∧ (top = ∅ ∨ tail = ∅) := by
  have hcompile : (userNames [⟨"limit", wildcard, .window ⟨some 5, none⟩⟩,
      ⟨"limit", "sqlserver", .window ⟨some 10, some 20⟩⟩]).compile ⟨.sqlServer, {}⟩ =
      .ok ⟨"SELECT DISTINCT [name] FROM [users] ORDER BY [name] " ++
        "OFFSET ? ROWS FETCH NEXT ? ROWS ONLY", [.int 20, .int 10]⟩ := by rfl
  obtain ⟨-, -, hpage⟩ := window_denoted (t := ⟨.sqlServer, {}⟩)
    (q := userNames [⟨"limit", wildcard, .window ⟨some 5, none⟩⟩,
      ⟨"limit", "sqlserver", .window ⟨some 10, some 20⟩⟩])
    (w := ⟨some 10, some 20⟩) (by simp [Dialect.builtin]) rfl rfl
  obtain ⟨-, -, -, top, tail, -, -, -, -, -, -, -, -, hrows, hperm, hone⟩ := hpage _ hcompile
  exact ⟨hcompile, by rfl, top, tail, hrows, hperm, hone⟩

end PolySql
