import Mathlib.Data.Option.NAry
import PolySql.Proofs.Composed.Statement
import PolySql.Proofs.Placeholder

/-!
Statements as templates, in which `%s` marks a value and a literal percent sign is written twice.
Main statement: for the dialects that mark values so, the statement of a query without SQL of its
own is a template for its bindings exactly if every name in it reads as it is written.
-/

namespace PolySql

open Text

/-- The number of marks in a template; none if a percent sign is neither a mark nor doubled. -/
def templateMarks? : List Char → Option ℕ
  | [] => some 0
  | '%' :: 's' :: cs => (templateMarks? cs).map (· + 1)
  | '%' :: '%' :: cs => templateMarks? cs
  | '%' :: _ => none
  | _ :: cs => templateMarks? cs

/-- The text is a template with as many marks as bindings. -/
def Fragment.IsTemplate (f : Fragment) : Prop :=
  templateMarks? f.text.toList = some f.bindings.length

instance (f : Fragment) : Decidable f.IsTemplate :=
  inferInstanceAs (Decidable (_ = _))

/-- The name holds no percent sign, or only doubled ones. -/
def ReadsLiterally (name : String) : Prop := templateMarks? name.toList = some 0

section Reader

variable {c : Char} {xs ys : List Char} {n : ℕ}

theorem templateMarks?_cons_of_ne (hc : c ≠ '%') :
    templateMarks? (c :: xs) = templateMarks? xs := by
  rw [templateMarks?] <;> simp [hc]

theorem templateMarks?_of_ne (h : ∀ c ∈ xs, c ≠ '%') : templateMarks? xs = some 0 := by
  induction xs with
  | nil => rfl
  | cons c xs ih =>
    rw [templateMarks?_cons_of_ne (h c List.mem_cons_self)]
    exact ih fun x hx => h x (List.mem_cons_of_mem _ hx)

/-- Behind a text that is a template, the reader starts again. -/
theorem templateMarks?_append (h : templateMarks? xs = some n) :
    templateMarks? (xs ++ ys) = (templateMarks? ys).map (n + ·) := by
  fun_induction templateMarks? xs generalizing n with
  | case1 =>
    cases h
    simp
  | case2 cs ih =>
    obtain ⟨k, hk, rfl⟩ := Option.map_eq_some_iff.mp h
    rw [List.cons_append, List.cons_append, templateMarks?, ih hk, Option.map_map]
    congr 1
    funext m
    show k + m + 1 = k + 1 + m
    omega
  | case3 cs ih =>
    rw [List.cons_append, List.cons_append, templateMarks?, ih h]
  | case4 cs _ _ => cases h
  | case5 c cs _ _ hc ih =>
    rw [List.cons_append, templateMarks?_cons_of_ne hc, ih h]

/-- A character that is not read together with a percent sign splits the text. -/
theorem templateMarks?_append_cons (hc : c ≠ '%') (hs : c ≠ 's') :
    templateMarks? (xs ++ c :: ys) =
      Option.map₂ (· + ·) (templateMarks? xs) (templateMarks? ys) := by
  cases hxs : templateMarks? xs with
  | some n =>
    rw [templateMarks?_append hxs, templateMarks?_cons_of_ne hc]
    cases templateMarks? ys <;> rfl
  | none =>
    rw [Option.map₂_none_left]
    -- The induction finds the percent sign that is an error; it is one still with `c` behind it.
    fun_induction templateMarks? xs with
    | case1 => cases hxs
    | case2 cs ih =>
      rw [List.cons_append, List.cons_append, templateMarks?,
        ih (Option.map_eq_none_iff.mp hxs)]
      rfl
    | case3 cs ih => rw [List.cons_append, List.cons_append, templateMarks?, ih hxs]
    | case4 cs hmark hpercent =>
      cases cs with
      | nil => rw [List.cons_append, List.nil_append, templateMarks?] <;> simp [hc, hs]
      | cons x cs => rw [List.cons_append, List.cons_append, templateMarks?] <;> simp_all
    | case5 x cs _ _ hx ih => rw [List.cons_append, templateMarks?_cons_of_ne hx, ih hxs]

/-- A quote, written twice, leaves the marks as they are. -/
theorem templateMarks?_doubleQuotes (hc : c ≠ '%') (hs : c ≠ 's') :
    templateMarks? (doubleQuotes [c] 0 xs) = templateMarks? xs := by
  fun_induction templateMarks? xs with
  | case1 => rfl
  | case2 cs ih =>
    rw [doubleQuotes_cons, if_neg (Ne.symm hc), doubleQuotes_cons, if_neg (Ne.symm hs),
      templateMarks?, ih]
  | case3 cs ih =>
    rw [doubleQuotes_cons, if_neg (Ne.symm hc), doubleQuotes_cons, if_neg (Ne.symm hc),
      templateMarks?, ih]
  | case4 cs hmark hpercent =>
    -- A percent sign in front of a quote is an error whether the quote is doubled or not.
    rw [doubleQuotes_cons, if_neg (Ne.symm hc)]
    cases cs with
    | nil => rfl
    | cons x cs =>
      rw [doubleQuotes_cons]
      split
      · rw [templateMarks?] <;> simp_all
      · rw [templateMarks?] <;> simp_all
  | case5 x cs _ _ hx ih =>
    rw [doubleQuotes_cons]
    split
    · rw [templateMarks?_cons_of_ne hc, templateMarks?_cons_of_ne hc, ih]
    · rw [templateMarks?_cons_of_ne hx, ih]

theorem ne_of_isBlank (h : isBlank c) : c ≠ '%' ∧ c ≠ 's' := by
  have hsigns : isBlank '%' = false ∧ isBlank 's' = false := by decide
  constructor
  · rintro rfl
    rw [hsigns.1] at h
    cases h
  · rintro rfl
    rw [hsigns.2] at h
    cases h

theorem templateMarks?_trimBoth (xs : List Char) :
    templateMarks? (trimBoth isBlank xs) = templateMarks? xs := by
  have hstart : ∀ xs : List Char, templateMarks? (xs.dropWhile isBlank) = templateMarks? xs := by
    intro xs
    induction xs with
    | nil => rfl
    | cons c xs ih =>
      rw [List.dropWhile_cons]
      split
      · next hblank => rw [templateMarks?_cons_of_ne (ne_of_isBlank hblank).1, ih]
      · rfl
  have hend : ∀ xs : List Char,
      templateMarks? (xs.dropWhile isBlank).reverse = templateMarks? xs.reverse := by
    intro xs
    induction xs with
    | nil => rfl
    | cons c xs ih =>
      rw [List.dropWhile_cons]
      split
      · next hblank =>
        obtain ⟨hpercent, hs⟩ := ne_of_isBlank hblank
        rw [ih, List.reverse_cons, templateMarks?_append_cons hpercent hs]
        cases templateMarks? xs.reverse <;> rfl
      · rfl
  rw [trimBoth, hend, List.reverse_reverse, hstart]

end Reader

/-- The dialect marks values with `%s` and puts names between two characters `q`. -/
structure Dialect.Formats (d : Dialect) (q : Char) : Prop where
  placeholder : d.placeholder = "%s"
  openQuote : d.openQuote = String.singleton q
  closeQuote : d.closeQuote = String.singleton q
  flavor : d.flavor ≠ .sqlite
  percent : q ≠ '%'
  letter : q ≠ 's'
  blank : isBlank q = false

theorem Dialect.exists_formats {d : Dialect} (h : d = .postgres ∨ d = .mysql) :
    ∃ q, d.Formats q := by
  rcases h with rfl | rfl
  · exact ⟨'"', rfl, rfl, rfl, by decide, by decide, by decide, by decide⟩
  · exact ⟨'`', rfl, rfl, rfl, by decide, by decide, by decide, by decide⟩

namespace Dialect.Formats

variable {d : Dialect} {q : Char} (hd : d.Formats q)

include hd

theorem alphabet : Alphabet d (· ≠ '%') := by
  apply foreign_percent.alphabet
  · rw [hd.openQuote]
    simpa [Over] using hd.percent
  · rw [hd.closeQuote]
    simpa [Over] using hd.percent
  · exact fun hf => absurd hf hd.flavor

theorem solid_quote (name : String) : Solid (d.quote name) := by
  unfold Dialect.quote
  split
  · next h =>
    rw [h]
    exact ⟨by decide, by decide⟩
  · rw [hd.openQuote, hd.closeQuote]
    have hq := solid_singleton hd.blank
    have hstarts := (hq.starts.append
      (String.ofList (doubleQuotes (String.singleton q).toList 0 name.toList))).append
      (String.singleton q)
    exact ⟨hstarts.inked.ne_empty, strip_of_ends hstarts (hq.ends.append _)⟩

theorem composing : Composing d (· ≠ '%') where
  alphabet := hd.alphabet
  quote := hd.solid_quote
  placeholder := by
    rw [hd.placeholder]
    exact ⟨by decide, by decide⟩

/-- A name in quotes has the marks of the name. -/
theorem templateMarks?_quote (name : String) (ys : List Char) :
    templateMarks? ((d.quote name).toList ++ ys) =
      Option.map₂ (· + ·) (templateMarks? name.toList) (templateMarks? ys) := by
  unfold Dialect.quote
  split
  · next h =>
    rw [h]
    exact @templateMarks?_append_cons '*' [] ys (by decide) (by decide)
  · simp only [hd.openQuote, hd.closeQuote, String.toList_append, String.toList_singleton,
      String.toList_ofList, List.append_assoc, List.singleton_append]
    rw [List.cons_append, templateMarks?_cons_of_ne hd.percent,
      templateMarks?_append_cons hd.percent hd.letter,
      templateMarks?_doubleQuotes hd.percent hd.letter]

end Dialect.Formats

/-- The marks in the names, besides others. -/
def marksBesides (names : List String) (others : Option ℕ) : Option ℕ :=
  names.foldr (fun name => Option.map₂ (· + ·) (templateMarks? name.toList)) others

theorem le_of_marksBesides {names : List String} {k m : ℕ}
    (h : marksBesides names (some k) = some m) : k ≤ m := by
  induction names generalizing m with
  | nil => exact (Option.some.inj h).le
  | cons name names ih =>
    obtain ⟨a, b, -, hb, rfl⟩ := Option.map₂_eq_some_iff.mp h
    exact (ih hb).trans (Nat.le_add_left b a)

theorem marksBesides_eq_some_iff {names : List String} {k : ℕ} :
    marksBesides names (some k) = some k ↔ ∀ name ∈ names, ReadsLiterally name := by
  induction names with
  | nil => simp [marksBesides]
  | cons name names ih =>
    rw [List.forall_mem_cons, ← ih]
    constructor
    · intro h
      obtain ⟨a, b, ha, hb, hab⟩ := Option.map₂_eq_some_iff.mp h
      -- The other names add marks or none, so this one has none.
      have hle := le_of_marksBesides hb
      obtain ⟨rfl, rfl⟩ : a = 0 ∧ b = k := by omega
      exact ⟨ha, hb⟩
    · rintro ⟨hname, hrest⟩
      rw [marksBesides, List.foldr_cons, ← marksBesides, hname, hrest]
      simp

namespace Composed

variable {d : Dialect} {q : Char} {names : List String} {f : Fragment}

theorem templateMarks?_append (hd : d.Formats q) (h : Composed d (· ≠ '%') names f)
    (ys : List Char) :
    templateMarks? (f.text.toList ++ ys) =
      marksBesides names ((templateMarks? ys).map (f.bindings.length + ·)) := by
  have htext : ∀ {s : String} (ys : List Char), Over (· ≠ '%') s →
      templateMarks? (s.toList ++ ys) = templateMarks? ys := by
    intro s ys hs
    rw [PolySql.templateMarks?_append (templateMarks?_of_ne hs)]
    simp
  -- By pieces, with all that follows: a bad name leaves the reader no number to start from again.
  induction h generalizing ys with
  | text hs =>
    rw [htext ys hs]
    simp [marksBesides]
  | @name names f n s _ hs ih =>
    simp only [Fragment.text_append, String.toList_append, List.append_assoc]
    rw [ih, hd.templateMarks?_quote, htext ys hs, marksBesides, marksBesides, List.foldr_append]
    congr 1
    simp only [List.foldr_cons, List.foldr_nil, Fragment.bindings_append, List.append_nil]
    exact Option.map_map₂_distrib_right fun a b => Nat.add_left_comm _ a b
  | @value names f v s _ hs ih =>
    simp only [Fragment.text_append, String.toList_append, List.append_assoc, Dialect.bind,
      hd.placeholder]
    have hmark : "%s".toList ++ (s.toList ++ ys) = '%' :: 's' :: (s.toList ++ ys) := rfl
    rw [ih, hmark, PolySql.templateMarks?, htext ys hs, Option.map_map]
    congr 2
    funext m
    show f.bindings.length + (m + 1) = (f.bindings ++ [v] ++ []).length + m
    rw [List.append_nil, List.length_append, List.length_singleton]
    omega

/-- The text is a template for its bindings exactly if every name reads as it is written. -/
theorem isTemplate_iff (hd : d.Formats q) (h : Composed d (· ≠ '%') names f) :
    f.IsTemplate ↔ ∀ name ∈ names, ReadsLiterally name := by
  have hmarks := h.templateMarks?_append hd []
  rw [List.append_nil] at hmarks
  rw [Fragment.IsTemplate, hmarks]
  exact marksBesides_eq_some_iff

end Composed

namespace Fragment.IsTemplate

variable {f g : Fragment}

theorem append (hf : f.IsTemplate) (hg : g.IsTemplate) : (f ++ g).IsTemplate := by
  unfold IsTemplate at hf hg ⊢
  rw [text_append, String.toList_append, templateMarks?_append hf, hg, bindings_append,
    List.length_append]
  rfl

theorem strip (hf : f.IsTemplate) : f.strip.IsTemplate := by
  unfold IsTemplate at hf ⊢
  rw [Fragment.strip, Text.strip, String.toList_ofList, templateMarks?_trimBoth, hf]

end Fragment.IsTemplate

/-- No text of the options has the character. -/
structure Options.Without (c : Char) (o : Options) : Prop where
  sourceKeySuffix : Over (· ≠ c) o.sourceKeySuffix
  targetKey : Over (· ≠ c) o.targetKey
  aggregateAlias : Over (· ≠ c) o.aggregateAlias

/-- Values stand for themselves, and no SQL text for a value. -/
def Exchange.same : Exchange := ⟨Eq, fun _ _ => False⟩

theorem lawful_template {t : Target} {c : Char} (hd : t.dialect.Formats c)
    (ho : t.options.Without '%') :
    Lawful .same (.without '%') t fun _ f f' => f = f' ∧ f.IsTemplate where
  alphabet := hd.alphabet
  sourceKeySuffix := ho.sourceKeySuffix
  targetKey := ho.targetKey
  aggregateAlias := ho.aggregateAlias
  text hs := ⟨rfl, templateMarks?_of_ne hs⟩
  append := by
    rintro _ _ _ _ _ _ ⟨rfl, hf⟩ ⟨rfl, hg⟩
    exact ⟨rfl, hf.append hg⟩
  strip := by
    rintro _ _ _ ⟨rfl, hf⟩
    exact ⟨rfl, hf.strip⟩
  blank h := by rw [h.1]
  mono h _ := h
  value {v v'} h _ := by
    obtain rfl : v = v' := h
    refine ⟨rfl, ?_⟩
    rw [Fragment.IsTemplate, Dialect.bind, hd.placeholder]
    exact (by decide : templateMarks? "%s".toList = some 1)
  fill h _ := h.elim

/-- Where values are marked by `%s`, a query without percent signs is compiled to a template for its
bindings. One without SQL of its own is compiled to words, values and names in quotes, and its text
is a template for its bindings exactly if each of these names reads as it is written: quoting does
not double percent signs. -/
theorem isTemplate_iff_names {t : Target} {q : Query} {f : Fragment}
    (ht : t.dialect = .postgres ∨ t.dialect = .mysql) (h : q.compile t = .ok f) :
    (q.Within (.without '%') → t.options.Without '%' → f.IsTemplate) ∧
      (q.Plain (· ≠ '%') t → ∃ names, Composed t.dialect (· ≠ '%') names f ∧
        (f.IsTemplate ↔ ∀ name ∈ names, ReadsLiterally name)) := by
  obtain ⟨c, hd⟩ := Dialect.exists_formats ht
  refine ⟨fun hwithin ho => ?_, fun hplain => ?_⟩
  -- Compared with itself, the query shows what its pieces have in common.
  · have hself : q.Alike .same 0 q := q.alike_self fun _ => rfl
    have hagree := hself.compile (lawful_template hd ho) hwithin
    rw [h] at hagree
    cases hagree with
    | ok hf => exact hf.2
  · obtain ⟨names, hf⟩ := hplain.compile hd.composing f h
    exact ⟨names, hf, hf.isTemplate_iff hd⟩

/-- A column of the sales, where it is at least some number. -/
def salesAbove (column : String) (least : Json) : Query :=
  .ofBlock ⟨[⟨"from", wildcard, .table (.named "sales")⟩,
    ⟨"select", wildcard, .column (.named column)⟩,
    ⟨"where", wildcard, .condition (.test ⟨false, false⟩ (.compare column ">=" (.value least)))⟩],
    .select, false, none⟩

theorem salesAbove_plain (t : Target) (column : String) (least : Json) (h : IsName column) :
    (salesAbove column least).Plain (· ≠ '%') t := by
  have hall : ∀ c ∈ (salesAbove column least).block.clauses, c.item.Plain (· ≠ '%') := by
    have hsales : IsName "sales" := ⟨by decide, by decide⟩
    have hfilter : (Condition.test (Q := Query) ⟨false, false⟩
        (.compare column ">=" (.value least))).Plain (· ≠ '%') :=
      .test ⟨h, by decide, trivial⟩
    exact List.forall_mem_cons.mpr ⟨hsales, List.forall_mem_cons.mpr ⟨h,
      List.forall_mem_singleton.mpr hfilter⟩⟩
  exact .ofBlock hall hall fun q hq => by cases hq

set_option maxRecDepth 20000 in
theorem salesAbove_share_isTemplate :
    ∃ f, (salesAbove "share" (.int 10)).compile ⟨.postgres, {}⟩ = .ok f ∧
      (salesAbove "share" (.int 10)).Within (.without '%') ∧
      (salesAbove "share" (.int 10)).Plain (· ≠ '%') ⟨.postgres, {}⟩ ∧ f.IsTemplate ∧
      ∃ names, Composed .postgres (· ≠ '%') names f ∧ ∀ name ∈ names, ReadsLiterally name := by
  have hwithin : (salesAbove "share" (.int 10)).Within (.without '%') := by
    have hletter : ∀ {s : String}, Over (· ≠ '%') s → Over (Content.without '%').letter s := id
    have hfrom : (Body.table (.named "sales") : Body Query).Within (.without '%') :=
      hletter (by decide)
    have hshare : (Body.column (.named "share") : Body Query).Within (.without '%') :=
      hletter (by decide)
    have hleast : (Body.condition (.test ⟨false, false⟩ (.compare "share" ">="
        (.value (.int 10)))) : Body Query).Within (.without '%') :=
      ⟨hletter (by decide), hletter (by decide), trivial⟩
    exact .ofBlock (List.forall_mem_cons.mpr ⟨hfrom, List.forall_mem_cons.mpr ⟨hshare,
      List.forall_mem_singleton.mpr hleast⟩⟩) fun q hq => by cases hq
  have hplain : (salesAbove "share" (.int 10)).Plain (· ≠ '%') ⟨.postgres, {}⟩ :=
    salesAbove_plain _ _ _ ⟨by decide, by decide⟩
  have hcompile : (salesAbove "share" (.int 10)).compile ⟨.postgres, {}⟩ =
      .ok ⟨"SELECT \"share\" FROM \"sales\" WHERE \"share\" >= %s", [.int 10]⟩ := by rfl
  have ho : Options.Without '%' {} := ⟨by decide, by decide, by decide⟩
  obtain ⟨hof, hiff⟩ := isTemplate_iff_names (.inl rfl) hcompile
  obtain ⟨names, hnames, htemplate⟩ := hiff hplain
  have hf := hof hwithin ho
  exact ⟨_, hcompile, hwithin, hplain, hf, names, hnames, htemplate.mp hf⟩

set_option maxRecDepth 20000 in
/-- A percent sign in a name is read with what follows it, though the query has no SQL of its own:
the text is no template, or has marks for values that are not there. -/
theorem salesAbove_percent_not_isTemplate :
    (salesAbove "share%" (.int 10)).Plain (· ≠ '%') ⟨.postgres, {}⟩ ∧
      (salesAbove "share%" (.int 10)).compile ⟨.postgres, {}⟩ =
        .ok ⟨"SELECT \"share%\" FROM \"sales\" WHERE \"share%\" >= %s", [.int 10]⟩ ∧
      ¬ Fragment.IsTemplate
        ⟨"SELECT \"share%\" FROM \"sales\" WHERE \"share%\" >= %s", [.int 10]⟩ ∧
      (salesAbove "%s" (.int 10)).Plain (· ≠ '%') ⟨.mysql, {}⟩ ∧
      (salesAbove "%s" (.int 10)).compile ⟨.mysql, {}⟩ =
        .ok ⟨"SELECT `%s` FROM `sales` WHERE `%s` >= %s", [.int 10]⟩ ∧
      templateMarks? "SELECT `%s` FROM `sales` WHERE `%s` >= %s".toList = some 3 := by
  refine ⟨salesAbove_plain _ _ _ ⟨by decide, by decide⟩, by rfl, by decide,
    salesAbove_plain _ _ _ ⟨by decide, by decide⟩, by rfl, by decide⟩

end PolySql
