import PolySql.Fragment
import PolySql.Proofs.Trim

/-!
Fragments in sentences. Main statements: a sentence is its stripped parts in a row, and stripping
stops before a piece that is solid.
-/

namespace PolySql

open Text

namespace Fragment

/-- The fragment without blanks in front, or without blanks behind. -/
def trimStart (f : Fragment) : Fragment :=
  ⟨String.ofList (f.text.toList.dropWhile isBlank), f.bindings⟩

def trimEnd (f : Fragment) : Fragment :=
  ⟨String.ofList (f.text.toList.reverse.dropWhile isBlank).reverse, f.bindings⟩

theorem strip_eq (f : Fragment) : f.strip = f.trimStart.trimEnd := by
  simp [strip, trimStart, trimEnd, Text.strip, trimBoth]

/-- Fragments in a row with a space in front of every one but the first that is not blank. -/
def spaced (started : Bool) : List Fragment → Fragment
  | [] => ∅
  | f :: rest =>
    if f.text = "" then f ++ spaced started rest
    else (if started then " " else "" : String) ++ f ++ spaced true rest

theorem text_spaced (started : Bool) (fs : List Fragment) :
    (spaced started fs).text =
      match fs.filter (·.text ≠ "") with
      | [] => ""
      | g :: gs => (if started then " " else "") ++ (separated " " (g :: gs)).text := by
  induction fs generalizing started with
  | nil => rfl
  | cons f rest ih =>
    by_cases hf : f.text = ""
    · simp [spaced, hf, ih]
    · simp only [spaced, hf, if_false, text_append, ih]
      simp only [List.filter_cons, ne_eq, hf, not_false_eq_true, decide_true, if_true]
      cases rest.filter (·.text ≠ "") with
      | nil => simp [separated]
      | cons g gs => simp [separated, String.append_assoc]

theorem bindings_spaced (started : Bool) (fs : List Fragment) :
    (spaced started fs).bindings = fs.flatMap (·.bindings) := by
  induction fs generalizing started with
  | nil => rfl
  | cons f rest ih =>
    unfold spaced
    split <;> simp [ih]

/-- Once something is written, a row goes on after every part of it. -/
theorem spaced_append (fs gs : List Fragment) :
    spaced true (fs ++ gs) = spaced true fs ++ spaced true gs := by
  induction fs with
  | nil => simp [spaced]
  | cons f rest ih =>
    rw [List.cons_append, spaced, spaced, ih]
    split <;> simp only [append_assoc]

theorem sentence_eq (fs : List Fragment) : sentence fs = spaced false (fs.map strip) := by
  ext1
  · rw [text_spaced, sentence]
    cases (fs.map strip).filter (·.text ≠ "") with
    | nil => rfl
    | cons g gs => simp
  · rw [bindings_spaced]
    simp [sentence, List.flatMap_map]

theorem sentence_empty_cons (fs : List Fragment) : sentence (∅ :: fs) = sentence fs := by
  rw [sentence_eq, sentence_eq, List.map_cons]
  exact empty_append _

theorem sentence_cons {f : Fragment} (h : f.strip.text ≠ "") (fs : List Fragment) :
    sentence (f :: fs) = f.strip ++ spaced true (fs.map strip) := by
  rw [sentence_eq, List.map_cons, spaced, if_neg h]
  exact congrArg (· ++ spaced true (fs.map strip)) (empty_append f.strip)

theorem strip_of_solid {f : Fragment} (h : Solid f.text) : f.strip = f := Fragment.ext h.strip rfl

end Fragment

namespace Solid

variable {s : String} (hs : Solid s)

include hs

theorem trimStart_append (f g : Fragment) (vs : List Json) :
    (f ++ ⟨s, vs⟩ ++ g).trimStart = f.trimStart ++ ⟨s, vs⟩ ++ g := by
  obtain ⟨a, cs, hcs, ha⟩ := hs.starts
  ext1
  · rw [← String.toList_inj]
    simp only [Fragment.trimStart, Fragment.text_append, String.toList_append, hcs,
      String.toList_ofList, List.append_assoc, List.cons_append, dropWhile_append_of_head ha]
  · rfl

theorem trimEnd_append (f g : Fragment) (vs : List Json) :
    (f ++ ⟨s, vs⟩ ++ g).trimEnd = f ++ ⟨s, vs⟩ ++ g.trimEnd := by
  obtain ⟨a, cs, hcs, ha⟩ := hs.ends
  ext1
  · rw [← String.toList_inj]
    simp only [Fragment.trimEnd, Fragment.text_append, String.toList_append, hcs,
      String.toList_ofList, List.reverse_append, List.reverse_cons, List.nil_append,
      List.cons_append, List.append_assoc, dropWhile_append_of_head ha, List.reverse_reverse]
  · rfl

end Solid

/-- A result without bindings is known by its text. -/
theorem eq_ok_of_text {ε : Type} {x : Except ε Fragment} {s : String}
    (h : x.toOption.map (fun f => (f.text, f.bindings.isEmpty)) = some (s, true)) :
    x = .ok ⟨s, []⟩ := by
  cases x with
  | error e => cases h
  | ok f =>
    obtain ⟨htext, hbindings⟩ := Prod.mk.inj (Option.some.inj h)
    exact congrArg Except.ok (Fragment.ext htext (List.isEmpty_iff.mp hbindings))

end PolySql
