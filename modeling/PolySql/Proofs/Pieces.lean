import PolySql.Proofs.Sentence

/-!
Pieces of a fragment. Main statements: stripping keeps a piece that is solid, every part of a
sentence is a piece of it, and what gathers pieces in order goes on to do so when more is put around
it.
-/

namespace PolySql

open Text

namespace Fragment

/-- A fragment stands in another one, its bindings in one block. -/
def PieceOf (g f : Fragment) : Prop := ∃ pre post, f = pre ++ g ++ post

/-- Fragments stand in another one, in their order and without overlap. -/
inductive InOrder : List Fragment → Fragment → Prop
  | nil (f : Fragment) : InOrder [] f
  | cons (pre g : Fragment) {gs : List Fragment} {f : Fragment} (h : InOrder gs f) :
    InOrder (g :: gs) (pre ++ g ++ f)

/-- The fragment is put together from others: those that are not blank stand in it in their order,
and it binds what they bind and nothing else. -/
structure Gathers (f : Fragment) (gs : List Fragment) : Prop where
  pieces : InOrder (gs.filter (·.text ≠ "")) f
  bindings : f.bindings = gs.flatMap (·.bindings)
  blank : f.text = "" ↔ ∀ g ∈ gs, g.text = ""

/-- Where blank fragments bind nothing, the others bind all that is bound. -/
theorem flatMap_bindings_filter {gs : List Fragment} (h : ∀ g ∈ gs, g.text = "" → g.bindings = []) :
    (gs.filter (·.text ≠ "")).flatMap (·.bindings) = gs.flatMap (·.bindings) := by
  induction gs with
  | nil => rfl
  | cons g gs ih =>
    have hrest := ih fun e he => h e (List.mem_cons_of_mem _ he)
    by_cases hg : g.text = ""
    · simpa [hg, h g List.mem_cons_self hg] using hrest
    · simpa [hg] using hrest

variable {f g h : Fragment}

namespace PieceOf

theorem refl (f : Fragment) : f.PieceOf f := ⟨∅, ∅, by simp⟩

theorem append_left (hg : g.PieceOf f) (e : Fragment) : g.PieceOf (e ++ f) := by
  obtain ⟨pre, post, rfl⟩ := hg
  exact ⟨e ++ pre, post, by simp only [append_assoc]⟩

theorem append_right (hg : g.PieceOf f) (e : Fragment) : g.PieceOf (f ++ e) := by
  obtain ⟨pre, post, rfl⟩ := hg
  exact ⟨pre, post ++ e, by simp only [append_assoc]⟩

theorem trans (hgf : g.PieceOf f) (hfh : f.PieceOf h) : g.PieceOf h := by
  obtain ⟨pre, post, rfl⟩ := hfh
  exact (hgf.append_left pre).append_right post

/-- Stripping stops in front of a piece without blanks at its ends. -/
theorem strip (hg : g.PieceOf f) (hsolid : Solid g.text) : g.PieceOf f.strip := by
  obtain ⟨pre, post, rfl⟩ := hg
  refine ⟨pre.trimStart, post.trimEnd, ?_⟩
  rw [strip_eq]
  exact (congrArg trimEnd (hsolid.trimStart_append pre post g.bindings)).trans
    (hsolid.trimEnd_append pre.trimStart post g.bindings)

theorem separated {fs : List Fragment} (hf : f ∈ fs) (separator : String) :
    f.PieceOf (separated separator fs) := by
  fun_induction Fragment.separated separator fs with
  | case1 => cases hf
  | case2 g =>
    rw [List.mem_singleton.mp hf]
    exact refl g
  | case3 g g' rest ih =>
    rcases List.mem_cons.mp hf with rfl | hf
    · exact ((refl f).append_right separator).append_right _
    · exact (ih hf).append_left _

theorem spaced {fs : List Fragment} (hf : f ∈ fs) (started : Bool) :
    f.PieceOf (spaced started fs) := by
  induction fs generalizing started with
  | nil => cases hf
  | cons g rest ih =>
    rw [Fragment.spaced]
    rcases List.mem_cons.mp hf with rfl | hf
    · split
      · exact (refl f).append_right _
      · exact ((refl f).append_left _).append_right _
    · split
      · exact (ih hf started).append_left _
      · exact (ih hf true).append_left _

theorem sentence {fs : List Fragment} (hf : f ∈ fs) : f.strip.PieceOf (sentence fs) := by
  rw [sentence_eq]
  exact spaced (List.mem_map_of_mem hf) false

end PieceOf

namespace InOrder

variable {gs hs : List Fragment}

theorem append_left (hf : InOrder gs f) (e : Fragment) : InOrder gs (e ++ f) := by
  cases hf with
  | nil => exact .nil _
  | cons pre g hf =>
    have hassoc := InOrder.cons (e ++ pre) g hf
    simpa only [append_assoc] using hassoc

theorem append (hf : InOrder gs f) (hg : InOrder hs g) : InOrder (gs ++ hs) (f ++ g) := by
  induction hf with
  | nil f => exact hg.append_left f
  | cons pre e hf ih =>
    have hassoc := InOrder.cons pre e ih
    simpa only [append_assoc, List.cons_append] using hassoc

theorem single (f : Fragment) : InOrder [f] f := by
  have hwhole := InOrder.cons ∅ f (.nil ∅)
  simpa using hwhole

theorem pieceOf (hf : InOrder gs f) (hg : g ∈ gs) : g.PieceOf f := by
  induction hf with
  | nil => cases hg
  | cons pre e hf ih =>
    rcases List.mem_cons.mp hg with rfl | hg
    · exact ((PieceOf.refl g).append_left pre).append_right _
    · exact (ih hg).append_left _

end InOrder

namespace Gathers

variable {gs hs : List Fragment}

theorem nil : Gathers ∅ [] := ⟨.nil ∅, rfl, by simp⟩

theorem single (f : Fragment) : f.Gathers [f] where
  pieces := by
    by_cases hf : f.text = ""
    · simpa [hf] using InOrder.nil f
    · simpa [hf] using InOrder.single f
  bindings := by simp
  blank := by simp

theorem append (hf : f.Gathers gs) (hg : g.Gathers hs) : (f ++ g).Gathers (gs ++ hs) where
  pieces := by
    rw [List.filter_append]
    exact hf.pieces.append hg.pieces
  bindings := by rw [bindings_append, hf.bindings, hg.bindings, List.flatMap_append]
  blank := by
    rw [text_append, String.append_eq_empty_iff, hf.blank, hg.blank, List.forall_mem_append]

/-- Text around a fragment that is not blank. -/
theorem between (hf : f.Gathers gs) (hne : f.text ≠ "") (pre : Fragment) {post : Fragment}
    (hpre : pre.bindings = []) (hpost : post.bindings = []) : (pre ++ f ++ post).Gathers gs where
  pieces := by
    have hpieces := (hf.pieces.append_left pre).append (.nil post)
    rwa [List.append_nil] at hpieces
  bindings := by simp [hf.bindings, hpre, hpost]
  blank := by
    refine iff_of_false ?_ fun hgs => hne (hf.blank.mpr hgs)
    simp [String.append_eq_empty_iff, hne]

theorem behind (hf : f.Gathers gs) (hne : f.text ≠ "") (pre : Fragment)
    (hpre : pre.bindings = []) : (pre ++ f).Gathers gs := by
  have hbetween := hf.between hne pre hpre bindings_empty
  rwa [append_empty] at hbetween

end Gathers

end Fragment

end PolySql
