import PolySql.Proofs.Leaf
import PolySql.Proofs.Spacing.Name
import PolySql.Proofs.Verbatim

/-!
Neat fragments. Main statements: fragments are neat when neat ones are put together by text with
single spaces, verbatim SQL is neat if it and the SQL put in its marks are, and so are functions of
neat arguments.
-/

namespace PolySql

open Text

namespace Fragment

/-- The text of the fragment is neat. -/
def IsNeat (f : Fragment) : Prop := Neat f.text

/-- The text of the fragment is neat, or there is none. -/
def IsTidy (f : Fragment) : Prop := f.text = "" ∨ f.IsNeat

variable {f g : Fragment} {s : String}

theorem isNeat_coe : (s : Fragment).IsNeat ↔ Neat s := Iff.rfl

namespace IsNeat

theorem before (hf : f.IsNeat) (hs : Opens s) : (s ++ f : Fragment).IsNeat := Neat.before hf hs

theorem after (hf : f.IsNeat) (hs : Closes s) : (f ++ s : Fragment).IsNeat := Neat.after hf hs

theorem between (hf : f.IsNeat) (hg : g.IsNeat) (hspaced : SingleSpaced s.toList) :
    (f ++ s ++ g : Fragment).IsNeat :=
  Neat.between hf hg hspaced

theorem enclosed {u : String} (hf : f.IsNeat) (hs : Opens s) (hu : Closes u) :
    (s ++ f ++ u : Fragment).IsNeat :=
  Neat.enclosed hf hs hu

theorem ite {c : Prop} [Decidable c] (hf : c → f.IsNeat) (hg : ¬ c → g.IsNeat) :
    (if c then f else g).IsNeat := by
  split
  · next h => exact hf h
  · next h => exact hg h

/-- What is blank is left out. -/
theorem empty_append (hf : f.IsNeat) : ("" ++ f : Fragment).IsNeat := by
  rwa [show ("" : Fragment) ++ f = f from Fragment.empty_append f]

theorem append_blank (hf : f.IsNeat) (hg : g.text = "") : (f ++ g).IsNeat := by
  rwa [IsNeat, text_append, hg, String.append_empty]

/-- A word in front that may be left out. -/
theorem behind (hf : f.IsNeat) (b : Bool) (hs : Opens s) :
    ((if b then s else "" : String) ++ f : Fragment).IsNeat := by
  cases b with
  | false => exact hf.empty_append
  | true => exact hf.before hs

theorem tidy (hf : f.IsNeat) : f.IsTidy := .inr hf

theorem strip (hf : f.IsNeat) : f.strip = f := strip_of_solid hf.toSolid

theorem separated {fs : List Fragment} (hs : SingleSpaced s.toList) (hne : fs ≠ [])
    (h : ∀ f ∈ fs, f.IsNeat) : (Fragment.separated s fs).IsNeat := by
  fun_induction Fragment.separated s fs with
  | case1 => exact absurd rfl hne
  | case2 f => exact h f List.mem_cons_self
  | case3 f g rest ih =>
    exact (h f List.mem_cons_self).between
      (ih (List.cons_ne_nil _ _) fun e he => h e (List.mem_cons_of_mem _ he)) hs

end IsNeat

theorem IsTidy.blank_append (hf : f.text = "") (hg : g.IsTidy) : (f ++ g).IsTidy := by
  rwa [IsTidy, IsNeat, text_append, hf, String.empty_append]

theorem IsTidy.strip (hf : f.IsTidy) : f.strip = f := by
  rcases hf with hempty | hneat
  · exact Fragment.ext (by rw [Fragment.strip, hempty]; rfl) rfl
  · exact hneat.strip

end Fragment

/-- The SQL text, if any, that fills a bound position. -/
def Bound.IsNeat (b : Bound) : Prop := ∀ sql, b = .raw sql → Neat sql

theorem Bound.IsNeat.fragment {b : Bound} {placeholder : String} (hb : b.IsNeat)
    (hp : Neat placeholder) : (b.fragment placeholder).IsNeat := by
  cases b with
  | value v => exact hp
  | raw sql => exact hb sql rfl

theorem respelled_fillMarks {placeholder : String} (hp : Neat placeholder) {cs : List Char}
    {bs : List Bound} (h : ∀ b ∈ bs, b.IsNeat) :
    Respelled cs (fillMarks placeholder cs bs).text.toList := by
  fun_induction fillMarks placeholder cs bs with
  | case1 => exact .nil
  | case2 cs b rest ih =>
    rw [List.forall_mem_cons] at h
    rw [Fragment.text_append, String.toList_append]
    exact .spell (List.cons_ne_nil '?' []) (h.1.fragment hp) (ih h.2)
  | case3 c cs bs _ ih =>
    rw [Fragment.text_append, String.toList_append, String.toList_singleton]
    exact .keep c (ih h)

namespace Dialect.IsNeat

variable {d : Dialect} (hd : d.IsNeat)

include hd

/-- Marked names are spelled as identifiers, all else is kept. -/
theorem respelled_of_marked {cs : List Char} {ps : List Part} (h : Marked cs ps)
    (hcs : SingleSpaced cs) : Respelled cs (ps.flatMap d.spelled) := by
  induction h with
  | nil => exact .nil
  | @name cs name rest ps _ hsplit _ ih =>
    subst hsplit
    have hmarked := hcs.of_infix (List.prefix_append ('[' :: name ++ [']']) rest).isInfix
    have hname := hmarked.of_infix (List.infix_append ['['] name [']'])
    have hidentifier : Neat (d.identifier (String.ofList name)) :=
      hd.neat_identifier (by rwa [String.toList_ofList])
    exact .spell (List.cons_ne_nil '[' (name ++ [']'])) hidentifier
      (ih (hcs.of_infix (List.suffix_append _ rest).isInfix))
  | @char c cs ps _ _ ih => exact .keep c (ih (hcs.of_infix (List.suffix_cons c cs).isInfix))

theorem neat_quoteMarkers {expression : String} (h : Neat expression) :
    Neat (d.quoteMarkers expression) := by
  rw [d.quoteMarkers_eq]
  exact (hd.respelled_of_marked (marked_parts _) h.spaced).neat h

theorem bind (v : Json) : (d.bind v).IsNeat := hd.placeholder

theorem quote {name : String} (h : SingleSpaced name.toList) : (d.quote name : Fragment).IsNeat :=
  Fragment.isNeat_coe.mpr (hd.neat_quote h)

theorem identifier {name : String} (h : SingleSpaced name.toList) :
    (d.identifier name : Fragment).IsNeat :=
  Fragment.isNeat_coe.mpr (hd.neat_identifier h)

theorem verbatim {sql : Verbatim} (h : Neat sql.expression) (hb : ∀ b ∈ sql.bindings, b.IsNeat) :
    Yields Fragment.IsNeat (d.verbatim sql) := by
  unfold Dialect.verbatim fill
  split
  · have hfilled := (respelled_fillMarks hd.placeholder hb).neat (hd.neat_quoteMarkers h)
    rw [String.ofList_toList] at hfilled
    exact .of_ok hfilled
  · exact .of_error _

theorem bindAll {bs : List Bound} (hne : bs ≠ []) (h : ∀ b ∈ bs, b.IsNeat) :
    (bindAll d.placeholder bs).IsNeat := by
  refine .separated (by decide) (by simpa using hne) ?_
  rw [List.forall_mem_map]
  exact fun b hb => (h b hb).fragment hd.placeholder

end Dialect.IsNeat

section Functions

variable (d : Dialect)

theorem neat_boolLiteral (b : Bool) : Neat (d.boolLiteral b) := by
  unfold Dialect.boolLiteral
  split <;> cases b <;> decide

/-- The seed may be left out. -/
theorem neat_random {seed : String} (h : seed = "" ∨ Neat seed) : Neat (d.random seed) := by
  unfold Dialect.random
  split
  · rcases h with rfl | h
    · decide
    · exact h.enclosed (by decide) (by decide)
  · decide
  · decide

/-- Apostrophes, written twice. -/
theorem neat_doubled {s : String} (h : Neat s) :
    Neat (String.ofList (s.toList.flatMap fun c => if c = '\'' then [c, c] else [c])) := by
  refine (respelled_flatMap fun c _ => ?_).neat h
  split
  · next hc =>
    rw [hc]
    exact .inr (by decide)
  · exact .inl rfl

variable {d} {part column : String}

theorem neat_call {function argument : String} (hf : Neat function) (ha : Neat argument) :
    Neat (function ++ "(" ++ argument ++ ")") :=
  (hf.between ha (by decide)).after (by decide)

theorem neat_datePart (hp : Neat part) (hc : Neat column) : Neat (d.datePart part column) := by
  have hname := hp.lower
  simp only [Dialect.datePart]
  split
  · exact neat_call hp.upper hc
  · split
    · exact neat_call hp.upper hc
    · next format numeric hlookup =>
      have hformats : ∀ f ∈ strftimeFormats, Neat f.2.1 := by decide
      obtain ⟨front, back, hsplit, -⟩ := List.lookup_eq_some_iff.mp hlookup
      have hformat : Neat format := by
        refine hformats (lower part, format, numeric) ?_
        rw [hsplit]
        exact List.mem_append_right front List.mem_cons_self
      have hsql : Neat ("strftime('" ++ format ++ "', " ++ column ++ ")") :=
        hformat.enclosed_pair hc (by decide) (by decide) (by decide)
      split
      · exact hsql.enclosed (by decide) (by decide)
      · exact hsql
  · split
    · exact hc.after (by decide)
    · split
      · exact hc.after (by decide)
      · exact (neat_doubled hname).enclosed_pair hc (by decide) (by decide) (by decide)
  · split
    · exact neat_call hname.upper hc
    · exact hp.upper.enclosed_pair hc (by decide) (by decide) (by decide)
  · split
    · exact hc.enclosed_pair hname.upper (by decide) (by decide) (by decide)
    · exact hname.upper.enclosed_pair hc (by decide) (by decide) (by decide)

end Functions

end PolySql
