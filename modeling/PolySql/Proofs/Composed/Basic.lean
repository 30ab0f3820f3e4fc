import PolySql.Proofs.Alphabet
import PolySql.Proofs.Sentence
import PolySql.Proofs.Success
import PolySql.Sql.Condition

/-!
SQL put together from words, names in quotes, and bound values. Main statements: this is kept by
everything that puts fragments together, and identifiers are written as names in quotes.
-/

namespace PolySql

open Text

/-- The fragment is put together from text over the alphabet `p`, from the given names in quotes,
in their order, and from values, bound one by one. -/
inductive Composed (d : Dialect) (p : Char → Prop) : List String → Fragment → Prop
  | text {s : String} (h : Over p s) : Composed d p [] s
  | name {names : List String} {f : Fragment} {n s : String} (h : Composed d p names f)
    (hs : Over p s) : Composed d p (names ++ [n]) (f ++ (d.quote n : String) ++ s)
  | value {names : List String} {f : Fragment} {v : Json} {s : String} (h : Composed d p names f)
    (hs : Over p s) : Composed d p names (f ++ d.bind v ++ s)

def Fragment.IsComposed (d : Dialect) (p : Char → Prop) (f : Fragment) : Prop :=
  ∃ names, Composed d p names f

/-- An alphabet of keywords, for a dialect whose quoted names and placeholders start and end with
no blank. -/
structure Composing (d : Dialect) (p : Char → Prop) : Prop where
  alphabet : Alphabet d p
  quote : ∀ n, Solid (d.quote n)
  placeholder : Solid d.placeholder

section Composed

variable {d : Dialect} {p : Char → Prop} {names names' : List String} {f g : Fragment} {s : String}

namespace Composed

/-- Text behind a fragment belongs to its last text. -/
theorem append_text (h : Composed d p names f) (hs : Over p s) : Composed d p names (f ++ s) := by
  cases h with
  | text h =>
    rw [Fragment.coe_append]
    exact .text ((over_append _ _).mpr ⟨h, hs⟩)
  | name h hs' =>
    rw [Fragment.append_assoc _ _ (s : Fragment), Fragment.coe_append]
    exact .name h ((over_append _ _).mpr ⟨hs', hs⟩)
  | value h hs' =>
    rw [Fragment.append_assoc _ _ (s : Fragment), Fragment.coe_append]
    exact .value h ((over_append _ _).mpr ⟨hs', hs⟩)

theorem append (h : Composed d p names f) (h' : Composed d p names' g) :
    Composed d p (names ++ names') (f ++ g) := by
  -- The pieces of the second fragment are laid one by one behind the first.
  induction h' with
  | text hs =>
    rw [List.append_nil]
    exact h.append_text hs
  | name _ hs ih =>
    simp only [← Fragment.append_assoc, ← List.append_assoc] at ih ⊢
    exact .name ih hs
  | value _ hs ih =>
    simp only [← Fragment.append_assoc] at ih ⊢
    exact .value ih hs

theorem over_trim (h : Over p s) :
    Over p (String.ofList (s.toList.dropWhile isBlank)) ∧
      Over p (String.ofList (s.toList.reverse.dropWhile isBlank).reverse) := by
  refine ⟨over_ofList fun c hc => h c ((List.dropWhile_sublist _).subset hc),
    over_ofList fun c hc => h c ?_⟩
  have hmem := (List.dropWhile_sublist _).subset (List.mem_reverse.mp hc)
  exact List.mem_reverse.mp hmem

variable (law : Composing d p)

include law

theorem trimStart (h : Composed d p names f) : Composed d p names f.trimStart := by
  induction h with
  | text h => exact .text (over_trim h).1
  | @name _ _ n _ _ hs ih =>
    have htrim := (law.quote n).trimStart_append
    rw [htrim]
    exact .name ih hs
  | @value _ _ v _ _ hs ih =>
    rw [Dialect.bind, law.placeholder.trimStart_append]
    exact .value ih hs

theorem trimEnd (h : Composed d p names f) : Composed d p names f.trimEnd := by
  -- Only the last text is trimmed: what stands before it ends with no blank.
  cases h with
  | text h => exact .text (over_trim h).2
  | @name _ _ n _ h hs =>
    rw [(law.quote n).trimEnd_append]
    exact .name h (over_trim hs).2
  | @value _ _ v _ h hs =>
    rw [Dialect.bind, law.placeholder.trimEnd_append]
    exact .value h (over_trim hs).2

end Composed

namespace Fragment.IsComposed

theorem text (h : Over p s) : IsComposed d p s := ⟨[], .text h⟩

theorem empty : IsComposed d p ∅ := text over_empty

theorem append (hf : f.IsComposed d p) (hg : g.IsComposed d p) : (f ++ g).IsComposed d p := by
  obtain ⟨names, hf⟩ := hf
  obtain ⟨names', hg⟩ := hg
  exact ⟨names ++ names', hf.append hg⟩

theorem coe_append {s t : String} (hs : IsComposed d p s) (ht : IsComposed d p t) :
    IsComposed d p (s ++ t : String) := by
  rw [← Fragment.coe_append]
  exact hs.append ht

theorem enclosed {a b s : String} (h : IsComposed d p s) (ha : Over p a) (hb : Over p b) :
    IsComposed d p (a ++ s ++ b : String) :=
  ((text ha).coe_append h).coe_append (text hb)

theorem before (hs : Over p s) (hf : f.IsComposed d p) : IsComposed d p (s ++ f) :=
  (text hs).append hf

theorem after (hf : f.IsComposed d p) (hs : Over p s) : IsComposed d p (f ++ s) :=
  hf.append (text hs)

theorem name (n : String) : IsComposed d p (d.quote n : String) := by
  have hone : Composed d p ([] ++ [n]) (∅ ++ (d.quote n : String) ++ ∅) :=
    .name (.text over_empty) over_empty
  rw [Fragment.empty_append, Fragment.append_empty] at hone
  exact ⟨_, hone⟩

theorem bind (v : Json) : (d.bind v).IsComposed d p := by
  have hone : Composed d p [] (∅ ++ d.bind v ++ ∅) := .value (.text over_empty) over_empty
  rw [Fragment.empty_append, Fragment.append_empty] at hone
  exact ⟨_, hone⟩

theorem ite {c : Prop} [Decidable c] (hf : c → f.IsComposed d p) (hg : ¬ c → g.IsComposed d p) :
    (if c then f else g).IsComposed d p := by
  split
  · next h => exact hf h
  · next h => exact hg h

theorem separated {fs : List Fragment} (hs : Over p s) (h : ∀ f ∈ fs, f.IsComposed d p) :
    (Fragment.separated s fs).IsComposed d p := by
  fun_induction Fragment.separated s fs with
  | case1 => exact empty
  | case2 f => exact h f List.mem_cons_self
  | case3 f g rest ih =>
    exact ((h f List.mem_cons_self).after hs).append
      (ih fun e he => h e (List.mem_cons_of_mem _ he))

theorem intercalate {ts : List String} (hs : Over p s)
    (h : ∀ u ∈ ts, IsComposed d p (u : String)) :
    IsComposed d p (String.intercalate s ts : String) := by
  induction ts with
  | nil => exact empty
  | cons u rest ih =>
    have hu := h u List.mem_cons_self
    cases rest with
    | nil => simpa using hu
    | cons u' rest =>
      rw [String.intercalate_cons_cons]
      exact (hu.coe_append (text hs)).coe_append (ih fun v hv => h v (List.mem_cons_of_mem _ hv))

theorem strip (law : Composing d p) (hf : f.IsComposed d p) : f.strip.IsComposed d p := by
  obtain ⟨names, hf⟩ := hf
  rw [Fragment.strip_eq]
  exact ⟨names, (hf.trimStart law).trimEnd law⟩

theorem spaced {fs : List Fragment} (hs : Over p " ") (started : Bool)
    (h : ∀ f ∈ fs, f.IsComposed d p) : (Fragment.spaced started fs).IsComposed d p := by
  induction fs generalizing started with
  | nil => exact empty
  | cons f rest ih =>
    have hf := h f List.mem_cons_self
    have hrest := fun started => ih started fun e he => h e (List.mem_cons_of_mem _ he)
    rw [Fragment.spaced]
    refine ite (fun _ => hf.append (hrest _)) fun _ => ?_
    cases started with
    | false => exact (before over_empty hf).append (hrest _)
    | true => exact (before hs hf).append (hrest _)

end Fragment.IsComposed

end Composed

/-- The text is a name, maybe a dotted one, maybe with an alias: it is not taken as it stands, as an
expression in parentheses is. -/
structure IsName (s : String) : Prop where
  whole : ¬ Dialect.isParenthesized (strip s)
  target : ∀ target ∈ (splitAlias (strip s)).head?, ¬ Dialect.isParenthesized (strip target)

namespace Composing

open Fragment (IsComposed)

variable {d : Dialect} {p : Char → Prop} (law : Composing d p) {f : Fragment}

include law

theorem word {s : String} (h : s.toList.all isKeywordChar) : Over p s := law.alphabet.word h

theorem written {s : String} (h : s.toList.all isKeywordChar) : IsComposed d p (s : String) :=
  .text (law.word h)

theorem sentence {fs : List Fragment} (h : ∀ f ∈ fs, f.IsComposed d p) :
    (Fragment.sentence fs).IsComposed d p := by
  rw [Fragment.sentence_eq]
  refine .spaced (law.word (by decide)) false fun g hg => ?_
  obtain ⟨f, hf, rfl⟩ := List.mem_map.mp hg
  exact (h f hf).strip law

theorem dotted {s : String} (h : ¬ Dialect.isParenthesized (strip s)) :
    IsComposed d p (d.dotted s : String) := by
  rw [Dialect.dotted]
  simp only [if_neg h]
  refine .intercalate (law.word (by decide)) fun u hu => ?_
  obtain ⟨part, -, rfl⟩ := List.mem_map.mp hu
  exact .name _

theorem identifier {s : String} (h : IsName s) : IsComposed d p (d.identifier s : String) := by
  have htarget := h.target
  rw [Dialect.identifier]
  simp only [if_neg h.whole]
  split
  · next target n rest hsplit =>
    rw [hsplit, List.head?_cons] at htarget
    exact ((law.dotted (htarget target rfl)).coe_append (law.written (by decide))).coe_append
      (.name _)
  · refine law.dotted ?_
    rw [strip_strip]
    exact h.whole

theorem identifiers {names : List String} (h : ∀ s ∈ names, IsName s) :
    IsComposed d p (d.identifiers names : String) := by
  rw [Dialect.identifiers]
  refine .intercalate (law.word (by decide)) fun u hu => ?_
  obtain ⟨s, hs, rfl⟩ := List.mem_map.mp hu
  exact law.identifier (h s hs)

theorem paren (h : f.IsComposed d p) : (Sql.paren f).IsComposed d p :=
  (Fragment.IsComposed.before (law.word (by decide)) h).after (law.word (by decide))

end Composing

end PolySql
