import PolySql.Proofs.Atom
import PolySql.Proofs.Reading
import PolySql.Proofs.Scan

/-!
The table that a path of joins starts from. FROM shows a table under its last alias, or else under
its own name; the first join of a path refers to a name of its own. Main statement: when the two are
the same.
-/

namespace PolySql

open Text

section Ends

theorem ends_intercalate {separator : String} {texts : List String} (hne : texts ≠ [])
    (h : ∀ s ∈ texts, Ends s) : Ends (String.intercalate separator texts) := by
  induction texts with
  | nil => exact absurd rfl hne
  | cons s rest ih =>
    cases rest with
    | nil => simpa using h s List.mem_cons_self
    | cons s' rest =>
      rw [String.intercalate_cons_cons]
      exact (ih (List.cons_ne_nil _ _) fun u hu => h u (List.mem_cons_of_mem _ hu)).append _

theorem ends_of_isParenthesized {s : String} (h : Dialect.isParenthesized s) : Ends s := by
  simp only [Dialect.isParenthesized, Bool.and_eq_true, beq_iff_eq] at h
  obtain ⟨cs, hcs⟩ := List.getLast?_eq_some_iff.mp h.2
  exact ⟨')', cs, hcs, by decide⟩

variable {d : Dialect} (hd : Ends d.closeQuote)

include hd

theorem ends_quote (name : String) : Ends (d.quote name) := by
  unfold Dialect.quote
  split
  · next h =>
    rw [h]
    exact ⟨'*', [], by decide, by decide⟩
  · exact hd.append _

theorem ends_dotted (name : String) : Ends (d.dotted name) := by
  unfold Dialect.dotted
  simp only
  split
  · next h => exact ends_of_isParenthesized h
  · apply ends_intercalate
    · simp [splitDots, pieces_ne_nil]
    · intro s hs
      obtain ⟨part, -, rfl⟩ := List.mem_map.mp hs
      exact ends_quote hd _

theorem ends_identifier (name : String) : Ends (d.identifier name) := by
  unfold Dialect.identifier
  simp only
  split
  · next h => exact ends_of_isParenthesized h
  · split
    · exact (ends_quote hd _).append _
    · exact ends_dotted hd _

end Ends

namespace Dialect

variable (d : Dialect)

/-- Names in quotes with dots between them. -/
def path (names : List String) : String := String.intercalate "." (names.map d.quote)

/-- The names that FROM shows a table under: its last alias as one name, or else the parts of its
own name. -/
def exposedNames (table : String) : List String :=
  match splitAlias (strip table) with
  | _ :: name :: rest => [(name :: rest).getLast (List.cons_ne_nil _ _)]
  | _ => (splitDots (strip table)).map strip

/-- What FROM shows a table under; an expression in parentheses has nothing but itself. -/
def exposed (table : String) : String :=
  if isParenthesized (strip table) then strip table else d.path (exposedNames table)

theorem path_append {names : List String} (hne : names ≠ []) (name : String) :
    d.path (names ++ [name]) = d.path names ++ "." ++ d.quote name := by
  have hquoted : names.map d.quote ≠ [] := by simpa using hne
  rw [path, path, List.map_append, List.map_singleton,
    String.intercalate_append_of_ne_nil hquoted (List.cons_ne_nil _ _),
    String.intercalate_singleton]

theorem exposedNames_plain {table : String} (h : splitAlias (strip table) = [strip table]) :
    exposedNames table = (splitDots table).map strip := by
  simp only [exposedNames, h, map_strip_splitDots_strip]

theorem exposedNames_aliased {table target name : String} {rest : List String}
    (h : splitAlias (strip table) = target :: name :: rest) :
    exposedNames table = [(name :: rest).getLast (List.cons_ne_nil _ _)] := by
  simp only [exposedNames, h]

/-- It is all of what is written for the table, or the alias behind AS. -/
theorem identifier_exposed (table : String) :
    d.identifier table = d.exposed table ∨
      ∃ target aliasName, d.identifier table = d.dotted target ++ " AS " ++ d.exposed table ∧
        d.exposed table = d.quote aliasName := by
  by_cases hwhole : isParenthesized (strip table)
  · left
    simp only [identifier, exposed, if_pos hwhole]
  · obtain ⟨-, hsplit⟩ | ⟨-, target, name, rest, hsplit⟩ := splitAlias_cases (strip table)
    · left
      have hstrip : ¬ isParenthesized (strip (strip table)) := by rwa [strip_strip]
      have hdotted := d.dotted_eq hstrip
      rw [map_strip_splitDots_strip] at hdotted
      simp only [identifier, exposed, if_neg hwhole, hsplit, exposedNames_plain hsplit]
      exact hdotted
    · right
      refine ⟨target, (name :: rest).getLast (List.cons_ne_nil _ _), ?_, ?_⟩
      · simp only [identifier, exposed, if_neg hwhole, hsplit, exposedNames_aliased hsplit, path,
          List.map_singleton, String.intercalate_singleton]
      · simp only [exposed, if_neg hwhole, exposedNames_aliased hsplit, path, List.map_singleton,
          String.intercalate_singleton]

theorem exposedNames_ne_nil (table : String) : exposedNames table ≠ [] := by
  obtain ⟨-, hsplit⟩ | ⟨-, target, name, rest, hsplit⟩ := splitAlias_cases (strip table)
  · rw [exposedNames_plain hsplit]
    simp [splitDots, pieces_ne_nil]
  · rw [exposedNames_aliased hsplit]
    exact List.cons_ne_nil _ _

namespace QuotesBy

variable {d} {opening closing : Char} (hd : d.QuotesBy opening closing)

include hd

theorem readItems_path {names : List String} (hne : names ≠ []) :
    readItems opening closing (d.path names).toList = some (names, []) := by
  have hread : readItems opening closing ((d.path names).toList ++ []) = some (names, []) :=
    hd.readItems_dots hne (by simp) (by simp)
  rwa [List.append_nil] at hread

theorem path_inj {names names' : List String} (hne : names ≠ []) (hne' : names' ≠ []) :
    d.path names = d.path names' ↔ names = names' := by
  constructor
  · intro h
    have hread := hd.readItems_path hne
    rw [h, hd.readItems_path hne'] at hread
    exact (congrArg Prod.fst (Option.some.inj hread)).symm
  · rintro rfl
    rfl

theorem path_ne_of_isParenthesized {names : List String} (hne : names ≠ []) {s : String}
    (h : isParenthesized s) : d.path names ≠ s := by
  rintro rfl
  have hread := hd.readItems_path hne
  simp only [isParenthesized, Bool.and_eq_true, beq_iff_eq] at h
  obtain ⟨cs, hcs⟩ := List.head?_eq_some_iff.mp h.1
  have hitem : readItem opening closing ('(' :: cs) = none := if_neg hd.paren.symm
  rw [hcs, readItems] at hread
  split at hread <;> simp_all

/-- Which names are written the way FROM shows a table. -/
theorem path_eq_exposed_iff {names : List String} (hne : names ≠ []) (table : String) :
    d.path names = d.exposed table ↔
      ¬ isParenthesized (strip table) ∧ names = exposedNames table := by
  unfold exposed
  split
  · next h => exact iff_of_false (hd.path_ne_of_isParenthesized hne h) fun hboth => hboth.1 h
  · next h =>
    rw [hd.path_inj hne (exposedNames_ne_nil table)]
    exact (and_iff_right h).symm

end QuotesBy

end Dialect

/-- A key that stays one name when it is written behind a dot. -/
structure IsKey (key : String) : Prop where
  dot : '.' ∉ key.toList
  paren : ')' ∉ key.toList
  separator : ¬ HasSeparator key.toList

/-- Blanks are trimmed in front of a character that is not blank, and behind it. -/
theorem trimBoth_append_cons {p : Char → Bool} {a : Char} (ha : p a = false) (xs ys : List Char) :
    trimBoth p (xs ++ a :: ys) = xs.dropWhile p ++ a :: (ys.reverse.dropWhile p).reverse := by
  rw [trimBoth, dropWhile_append_of_head ha, List.reverse_append, List.reverse_cons,
    List.append_assoc, List.singleton_append, dropWhile_append_of_head ha, List.reverse_append,
    List.reverse_cons, List.reverse_reverse, List.append_assoc, List.singleton_append]

/-- The names of a table and of its key make up a column. -/
theorem Dialect.identifier_column (d : Dialect) {base key : String}
    (hbase : ¬ HasSeparator base.toList) (hkey : IsKey key) :
    d.identifier (base ++ "." ++ key) =
      d.path ((splitDots base).map strip) ++ "." ++ d.quote (strip key) := by
  have hlist : (base ++ "." ++ key).toList = base.toList ++ '.' :: key.toList := by simp
  have hwhole : ¬ isParenthesized (strip (base ++ "." ++ key)) := by
    intro h
    simp only [isParenthesized, Bool.and_eq_true, beq_iff_eq, strip, String.toList_ofList, hlist,
      trimBoth_append_cons (show isBlank '.' = false by decide)] at h
    have hlast := h.2
    rw [List.getLast?_append_of_ne_nil _ (List.cons_ne_nil _ _)] at hlast
    rcases List.mem_cons.mp (List.mem_of_getLast? hlast) with hdot | hmem
    · exact absurd hdot (by decide)
    · rw [List.mem_reverse] at hmem
      exact hkey.paren (List.mem_reverse.mp ((List.dropWhile_sublist _).subset hmem))
  have hone : ¬ HasSeparator (strip (base ++ "." ++ key)).toList := by
    rw [strip, String.toList_ofList, hlist]
    intro h
    rcases hasSeparator_dot.mp (h.mono (trimBoth_inside isBlank _)) with h | h
    · exact hbase h
    · exact hkey.separator h
  have hstrip : ¬ isParenthesized (strip (strip (base ++ "." ++ key))) := by rwa [strip_strip]
  have hnames : (splitDots base).map strip ≠ [] := by simp [splitDots, pieces_ne_nil]
  rw [Dialect.identifier]
  simp only [if_neg hwhole, splitAlias_of_no_separator hone]
  rw [d.dotted_eq hstrip, map_strip_splitDots_strip, splitDots_append,
    splitDots_of_no_dot hkey.dot, List.map_append, List.map_singleton]
  exact d.path_append hnames (strip key)

/-- The name that a path starts from. -/
def baseName (table : String) : String := ((Table.named table : Table Query).refName).getD ""

/-- The names that the first join of a path refers to a table by. -/
def referredNames (table : String) : List String := (splitDots (baseName table)).map strip

section BaseName

variable {table target name : String} {rest : List String}

theorem baseName_plain (h : splitAlias table = [table]) : baseName table = table := by
  simp only [baseName, Table.refName, h, Option.getD_some]

theorem baseName_aliased (h : splitAlias table = target :: name :: rest) :
    baseName table = strip ((name :: rest).getLast (List.cons_ne_nil _ _)) := by
  simp only [baseName, Table.refName, h, Option.getD_some]

theorem refName_named {Q : Type} [Aliased Q] (table : String) :
    (Table.named table : Table Q).refName = some (baseName table) := by
  obtain ⟨-, hsplit⟩ | ⟨-, target, name, rest, hsplit⟩ := splitAlias_cases table
  · simp only [Table.refName, baseName_plain hsplit, hsplit]
  · simp only [Table.refName, baseName_aliased hsplit, hsplit]

/-- The name that a path starts from holds no separator. -/
theorem no_separator_baseName (table : String) : ¬ HasSeparator (baseName table).toList := by
  obtain ⟨hnone, hsplit⟩ | ⟨-, target, name, rest, hsplit⟩ := splitAlias_cases table
  · rwa [baseName_plain hsplit]
  · rw [baseName_aliased hsplit, strip, String.toList_ofList]
    intro h
    have hlast : (name :: rest).getLast (List.cons_ne_nil _ _) ∈ splitAlias table := by
      rw [hsplit]
      exact List.mem_cons_of_mem _ (List.getLast_mem _)
    exact no_separator_of_mem_splitAlias hlast (h.mono (trimBoth_inside isBlank _))

theorem referredNames_ne_nil (table : String) : referredNames table ≠ [] := by
  simp [referredNames, splitDots, pieces_ne_nil]

/-- A table without an alias is referred to as it is shown, whatever blanks are around it. -/
theorem referredNames_plain (h : ¬ HasSeparator table.toList) :
    referredNames table = Dialect.exposedNames table := by
  have hstrip : ¬ HasSeparator (strip table).toList := by
    rw [strip, String.toList_ofList]
    exact fun hsome => h (hsome.mono (trimBoth_inside isBlank _))
  rw [Dialect.exposedNames_plain (splitAlias_of_no_separator hstrip), referredNames,
    baseName_plain (splitAlias_of_no_separator h)]

/-- An alias is referred to as it is shown if it holds no dot. -/
theorem referredNames_aliased (hstrip : strip table = table) (h : HasSeparator table.toList) :
    referredNames table = Dialect.exposedNames table ↔ '.' ∉ (baseName table).toList := by
  obtain ⟨hnone, -⟩ | ⟨-, target, name, rest, hsplit⟩ := splitAlias_cases table
  · exact absurd h hnone
  · have htrimmed := strip_getLast_splitAlias hstrip (hsplit ▸ List.cons_ne_nil _ _)
    simp only [hsplit, List.getLast_cons (List.cons_ne_nil name rest)] at htrimmed
    have hbase := baseName_aliased hsplit
    rw [Dialect.exposedNames_aliased (by rw [hstrip, hsplit]), referredNames, ← htrimmed, ← hbase]
    constructor
    · intro hone hdot
      obtain ⟨xs, ys, hxs⟩ := List.append_of_mem hdot
      have hlength := congrArg List.length hone
      rw [List.length_map, splitDots, hxs, pieces_dot_append, List.map_append, List.length_append,
        List.length_map, List.length_map, List.length_singleton] at hlength
      have hfront := List.length_pos_of_ne_nil (pieces_ne_nil dotWidth 0 xs)
      have hback := List.length_pos_of_ne_nil (pieces_ne_nil dotWidth 0 ys)
      omega
    · intro hdot
      rw [splitDots_of_no_dot hdot, List.map_singleton, hbase, strip_strip]

end BaseName

namespace Sql

variable {t : Target} {d : Dialect} {cs : List (Clause SubSelect)}

theorem memberTerms_columns (hopen : Starts d.openQuote) (hclose : Ends d.closeQuote)
    (component first second : String) :
    memberTerms d [⟨component, wildcard, .test ⟨false, false⟩ (.columns first "=" second)⟩] =
      .ok [⟨false, (d.identifier first ++ " = " ++ d.identifier second : String)⟩] := by
  have hstrip : strip (d.identifier first ++ " = " ++ d.identifier second) =
      d.identifier first ++ " = " ++ d.identifier second :=
    strip_of_ends (((starts_identifier hopen first).append _).append _)
      ((ends_identifier hclose second).append _)
  have hsql : test d false (.columns first "=" second) =
      .ok (d.identifier first ++ " = " ++ d.identifier second : String) := by
    have hsign : " = " = " " ++ "=" ++ " " := rfl
    rw [test, if_neg Bool.false_ne_true, hsign]
    simp only [Fragment.coe_append, String.empty_append, String.append_assoc]
  rw [memberTerms, if_pos (by rfl), condition, hsql, memberTerms]
  refine congrArg (fun f => Except.ok [Term.mk false f]) (Fragment.ext ?_ rfl)
  exact hstrip

/-- What is written for a join of a path. -/
theorem join_link [Inflection] (hopen : Starts d.openQuote) (hclose : Ends d.closeQuote)
    (o : Options) (j : PathJoin) (engine source table : String) :
    join d (j.link (Q := SubSelect) o engine source table).item =
      .ok (j.type.name ++ " JOIN " ++ d.identifier table ++ " ON " ++
        (d.identifier (source ++ "." ++ j.sourceKey o table) ++ " = " ++
          d.identifier (table ++ "." ++ j.keyOf o table)) : String) := by
  have hstarts := ((starts_identifier hopen (source ++ "." ++ j.sourceKey o table)).append
    " = ").append (d.identifier (table ++ "." ++ j.keyOf o table))
  have hne := hstarts.inked.ne_empty
  have hterms := memberTerms_columns hopen hclose "where" (source ++ "." ++ j.sourceKey o table)
    (table ++ "." ++ j.keyOf o table)
  generalize d.identifier (source ++ "." ++ j.sourceKey o table) ++ " = " ++
    d.identifier (table ++ "." ++ j.keyOf o table) = on at hne hterms ⊢
  have hconnect : connect "" [⟨false, on⟩] = on := by
    rw [connect, connectFrom, if_neg hne, connectFrom]
    ext1 <;> simp
  simp only [PathJoin.link, join, hterms]
  show Except.ok (if (connect "" [⟨false, on⟩]).text = "" then _ else _) = _
  rw [hconnect, if_neg hne]
  simp only [Fragment.coe_append]

variable {isDistinct : Bool} {f : Fragment}

theorem exists_from_of_select (h : select t isDistinct cs = .ok f) {table : String}
    (hfrom : effectiveItem (expanded t cs) "from" t.engine = some (.table (.named table))) :
    Fragment.PieceOf (Fragment.strip ("FROM " ++ t.dialect.identifier table : String)) f := by
  obtain ⟨window, parts, rfl, hparts⟩ := selectExpanded_parts (selectExpanded_of_select h)
  have hpart : fromPart t (withColumns t (expanded t cs)) ∈
      clauseParts t window isDistinct (withColumns t (expanded t cs)) := by simp [clauseParts]
  obtain ⟨p, hp, hrun⟩ := hparts _ hpart
  rw [fromPart, effectiveItem_congr (visible_withColumns (by decide)), hfrom] at hrun
  obtain rfl := Except.ok.inj hrun
  rw [← Fragment.coe_append]
  exact .sentence hp

theorem exists_join_of_select (h : select t isDistinct cs = .ok f) {c : Clause SubSelect}
    (hc : c ∈ visible (expanded t cs) "join" t.engine) :
    ∃ g, join t.dialect c.item = .ok g ∧ (Solid g.text → g.PieceOf f) := by
  obtain ⟨window, parts, rfl, hparts⟩ := selectExpanded_parts (selectExpanded_of_select h)
  have hpart : joinPart t (withColumns t (expanded t cs)) ∈
      clauseParts t window isDistinct (withColumns t (expanded t cs)) := by simp [clauseParts]
  obtain ⟨p, hp, hrun⟩ := hparts _ hpart
  rw [joinPart, visible_withColumns (by decide)] at hrun
  obtain ⟨gs, hgs, rfl⟩ := exists_of_bind_pure hrun
  obtain ⟨g, hg, hjoin⟩ := exists_of_mem_of_mapM_ok hgs hc
  exact ⟨g, hjoin, fun hsolid =>
    ((Fragment.PieceOf.separated hg " ").strip hsolid).trans (.sentence hp)⟩

end Sql

theorem Dialect.ends_of_mem_builtin {d : Dialect} (h : d ∈ Dialect.builtin) :
    Starts d.openQuote ∧ Ends d.closeQuote := by
  have hquotes : ∀ d ∈ Dialect.builtin, Solid d.openQuote ∧ Solid d.closeQuote := by
    intro d hd
    simp only [Dialect.builtin, List.mem_cons, List.not_mem_nil, or_false] at hd
    rcases hd with rfl | rfl | rfl | rfl <;> exact ⟨⟨by decide, by decide⟩, by decide, by decide⟩
  exact ⟨(hquotes d h).1.starts, (hquotes d h).2.ends⟩

theorem JoinType.starts_name (type : JoinType) : Starts type.name := by
  cases type
  · exact ⟨'I', "NNER".toList, by decide, by decide⟩
  · exact ⟨'L', "EFT".toList, by decide, by decide⟩
  · exact ⟨'R', "IGHT".toList, by decide, by decide⟩
  · exact ⟨'F', "ULL".toList, by decide, by decide⟩
  · exact ⟨'C', "ROSS".toList, by decide, by decide⟩

section First

variable {t : Target} {f : Fragment} {j : PathJoin} {table first : String} {rest : List String}

/-- A path that is expanded starts from the name of the table. -/
theorem baseAlias_of_select {cs : List (Clause SubSelect)} {isDistinct : Bool}
    {c : Clause SubSelect}
    (hfrom : effectiveItem cs "from" t.engine = some (.table (.named table))) (hc : c ∈ cs)
    (hj : pathJoin? t c = some j) (htables : j.tables = first :: rest)
    (h : Sql.select t isDistinct cs = .ok f) : baseAlias t cs = some (baseName table) := by
  obtain ⟨ds, hds, -⟩ := exists_of_bind_ok h
  obtain ⟨hstranded, -⟩ := expandPaths_eq_ok_iff.mp hds
  have hname : baseAlias t cs = (some (baseName table)).filter (· ≠ "") := by
    rw [baseAlias, hfrom]
    exact congrArg (Option.filter _) (refName_named (Q := SubSelect) table)
  cases hbase : baseAlias t cs with
  | none =>
    rw [stranded?, hbase] at hstranded
    have hmem : j ∈ pathJoins t cs := List.mem_filterMap.mpr ⟨c, hc, hj⟩
    have hempty := List.find?_eq_none.mp hstranded j hmem
    simp [htables] at hempty
  | some base =>
    rw [hbase] at hname
    exact (Option.filter_eq_some_iff.mp hname.symm).1.symm

/-- A select shows its table, and joins the first table of a path to the table's name. -/
theorem Sql.first_join_of_select {cs : List (Clause SubSelect)} {isDistinct : Bool}
    {c : Clause SubSelect} (hd : t.dialect ∈ Dialect.builtin)
    (hfrom : effectiveItem cs "from" t.engine = some (.table (.named table))) (hc : c ∈ cs)
    (hj : pathJoin? t c = some j) (htables : j.tables = first :: rest)
    (hkey : IsKey (j.sourceKey t.options first)) (h : select t isDistinct cs = .ok f) :
    Fragment.PieceOf ("FROM " ++ t.dialect.identifier table : String) f ∧
    ∃ right, Fragment.PieceOf (j.type.name ++ " JOIN " ++ t.dialect.identifier first ++ " ON " ++
      (t.dialect.path (referredNames table) ++ "." ++
        t.dialect.quote (strip (j.sourceKey t.options first)) ++ " = " ++ right) : String) f := by
  obtain ⟨hopen, hclose⟩ := Dialect.ends_of_mem_builtin hd
  constructor
  · obtain ⟨e, he, hitem⟩ := Option.map_eq_some_iff.mp hfrom
    have hnone : pathJoin? t e = none := by
      rw [pathJoin?, hitem]
    have hstays : effectiveItem (expanded t cs) "from" t.engine = some (.table (.named table)) := by
      rw [effectiveItem, effective_expanded (by decide) he hnone, Option.map_some, hitem]
    have hpiece := exists_from_of_select h hstays
    have hsolid : Solid ("FROM " ++ t.dialect.identifier table) :=
      solid_of_ends ⟨'F', "ROM ".toList, by decide, by decide⟩ (ends_identifier hclose table)
    rwa [Fragment.strip, hsolid.strip] at hpiece
  · obtain ⟨hseen, -⟩ := pathJoin?_eq_some_iff.mp hj
    have hbase := baseAlias_of_select hfrom hc hj htables h
    have hlink : j.link t.options c.engine (baseName table) first ∈
        visible (expanded t cs) "join" t.engine := by
      apply List.mem_filter.mpr
      constructor
      · apply List.mem_flatMap_of_mem hc
        simp only [hbase, replacement, hj, htables]
        exact List.mem_cons_self
      · simpa [PathJoin.link, Scoped.appliesTo] using hseen
    obtain ⟨g, hg, hpiece⟩ := exists_join_of_select h hlink
    rw [join_link hopen hclose,
      Dialect.identifier_column _ (no_separator_baseName table) hkey] at hg
    obtain rfl := Except.ok.inj hg
    refine ⟨_, hpiece ?_⟩
    simp only [String.append_assoc]
    apply solid_of_ends j.type.starts_name
    simp only [← String.append_assoc]
    exact (ends_identifier hclose _).append _

/-- The first join of a path refers to the table that FROM shows, under the names that the last
alias of the table has, or the table without one, when it is cut at its dots. These are the names
that it is shown under for every table without an alias, and for one with an alias, written without
blanks around it, exactly if the alias holds no dot. An expression in parentheses is never referred
to as it is shown. -/
theorem first_join_qualified {q : Query} {c : Clause Query} (hd : t.dialect ∈ Dialect.builtin)
    (hmethod : q.block.method = .select)
    (hfrom : effectiveItem q.block.clauses "from" t.engine = some (.table (.named table)))
    (hc : c ∈ q.block.clauses) (hj : pathJoin? t c = some j) (htables : j.tables = first :: rest)
    (hkey : IsKey (j.sourceKey t.options first)) (h : q.compile t = .ok f) :
    Fragment.PieceOf ("FROM " ++ t.dialect.identifier table : String) f ∧
    (t.dialect.identifier table = t.dialect.exposed table ∨
      ∃ target aliasName, t.dialect.identifier table =
          t.dialect.dotted target ++ " AS " ++ t.dialect.exposed table ∧
        t.dialect.exposed table = t.dialect.quote aliasName) ∧
    (∃ right, Fragment.PieceOf (j.type.name ++ " JOIN " ++ t.dialect.identifier first ++ " ON " ++
      (t.dialect.path (referredNames table) ++ "." ++
        t.dialect.quote (strip (j.sourceKey t.options first)) ++ " = " ++ right) : String) f) ∧
    (t.dialect.path (referredNames table) = t.dialect.exposed table ↔
      ¬ Dialect.isParenthesized (strip table) ∧
        referredNames table = Dialect.exposedNames table) ∧
    (¬ HasSeparator table.toList → referredNames table = Dialect.exposedNames table) ∧
    (strip table = table → HasSeparator table.toList →
      (referredNames table = Dialect.exposedNames table ↔ '.' ∉ (baseName table).toList)) := by
  obtain ⟨opening, closing, hquotes⟩ := Dialect.exists_quotesBy hd
  obtain ⟨cs, method, isDistinct, aliasName⟩ := q
  obtain rfl : method = .select := hmethod
  obtain ⟨ctes, sql, -, hsql, rfl⟩ := Sql.statement_parts h
  have hfrom' : effectiveItem (cs.map (Scoped.map (Body.map (Query.subSelect t)))) "from" t.engine =
      some (.table (.named table)) := by
    rw [effectiveItem_map, show effectiveItem cs "from" t.engine = _ from hfrom]
    rfl
  obtain ⟨hshown, right, hjoined⟩ := Sql.first_join_of_select hd hfrom' (List.mem_map_of_mem hc)
    ((pathJoin?_map c).trans hj) htables hkey hsql
  exact ⟨hshown.append_left ctes, t.dialect.identifier_exposed table,
    ⟨right, hjoined.append_left ctes⟩,
    hquotes.path_eq_exposed_iff (referredNames_ne_nil table) table, referredNames_plain,
    referredNames_aliased⟩

end First

/-- The posts of a table with their authors. -/
def authorsOf (table : String) : Query :=
  .ofBlock ⟨[⟨"from", wildcard, .table (.named table)⟩,
    ⟨"join", wildcard, .join (.path ⟨"Author", .inner, none, none, none, none⟩)⟩],
    .select, false, none⟩

theorem authorsOf_qualified :
    (authorsOf "blog.Posts as p").compile ⟨.sqlite, {}⟩ =
      .ok ⟨"SELECT * FROM \"blog\".\"Posts\" AS \"p\" " ++
        "INNER JOIN \"Author\" ON \"p\".\"AuthorId\" = \"Author\".\"Id\"", []⟩ ∧
      Fragment.PieceOf "FROM \"blog\".\"Posts\" AS \"p\""
        ⟨"SELECT * FROM \"blog\".\"Posts\" AS \"p\" " ++
          "INNER JOIN \"Author\" ON \"p\".\"AuthorId\" = \"Author\".\"Id\"", []⟩ ∧
      Dialect.sqlite.exposed "blog.Posts as p" = "\"p\"" ∧
      Dialect.sqlite.path (referredNames "blog.Posts as p") =
        Dialect.sqlite.exposed "blog.Posts as p" := by
  have hcompile : (authorsOf "blog.Posts as p").compile ⟨.sqlite, {}⟩ =
      .ok ⟨"SELECT * FROM \"blog\".\"Posts\" AS \"p\" " ++
        "INNER JOIN \"Author\" ON \"p\".\"AuthorId\" = \"Author\".\"Id\"", []⟩ :=
    eq_ok_of_text (by decide +kernel)
  have hkey : IsKey "AuthorId" := by
    refine ⟨by decide, by decide, ?_⟩
    rw [← one_lt_length_splitAlias_iff]
    decide +kernel
  have halias : HasSeparator "blog.Posts as p".toList := by
    rw [← one_lt_length_splitAlias_iff]
    decide +kernel
  have hsource : PathJoin.sourceKey {} ⟨"Author", .inner, none, none, none, none⟩ "Author" =
      "AuthorId" := by decide +kernel
  obtain ⟨hshown, -, -, hsame, -, hdot⟩ := first_join_qualified (q := authorsOf "blog.Posts as p")
    (t := ⟨.sqlite, {}⟩) (by decide) rfl rfl (List.mem_cons_of_mem _ List.mem_cons_self) rfl
    (show _ = "Author" :: [] by decide +kernel) (by rwa [hsource]) hcompile
  have hidentifier : Dialect.sqlite.identifier "blog.Posts as p" =
      "\"blog\".\"Posts\" AS \"p\"" := by decide +kernel
  rw [hidentifier] at hshown
  exact ⟨hcompile, hshown, by decide +kernel,
    hsame.mpr ⟨by decide +kernel, (hdot (by decide +kernel) halias).mpr (by decide +kernel)⟩⟩

/-- An alias with a dot is shown as one name and referred to as two; an alias without a table in
front of it is shown with its keyword and referred to without. -/
theorem authorsOf_misqualified :
    (authorsOf "Posts as p.x").compile ⟨.sqlite, {}⟩ =
      .ok ⟨"SELECT * FROM \"Posts\" AS \"p.x\" " ++
        "INNER JOIN \"Author\" ON \"p\".\"x\".\"AuthorId\" = \"Author\".\"Id\"", []⟩ ∧
      Dialect.sqlite.exposed "Posts as p.x" = "\"p.x\"" ∧
      Dialect.sqlite.path (referredNames "Posts as p.x") = "\"p\".\"x\"" ∧
      (authorsOf " as b").compile ⟨.sqlite, {}⟩ =
        .ok ⟨"SELECT * FROM \"as b\" " ++
          "INNER JOIN \"Author\" ON \"b\".\"AuthorId\" = \"Author\".\"Id\"", []⟩ ∧
      Dialect.sqlite.exposed " as b" = "\"as b\"" ∧
      Dialect.sqlite.path (referredNames " as b") = "\"b\"" := by
  exact ⟨eq_ok_of_text (by decide +kernel), by decide +kernel, by decide +kernel,
    eq_ok_of_text (by decide +kernel), by decide +kernel, by decide +kernel⟩

end PolySql
