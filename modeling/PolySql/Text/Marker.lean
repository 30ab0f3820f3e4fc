/-!
Identifier markers in verbatim SQL: a name in square brackets. Everything else passes through. Main
statement: the parts of a text are its one reading from the left (`parts_eq_iff`).
-/

namespace PolySql.Text

/-- A part of verbatim SQL: one character as it stands, or a marked name. -/
inductive Part
  | char (c : Char)
  | name (cs : List Char)
  deriving DecidableEq, Repr

/-- The text that a part was read from. -/
def Part.written : Part → List Char
  | .char c => [c]
  | .name cs => '[' :: cs ++ [']']

def isBracket (c : Char) : Bool := c == '[' || c == ']'

/-- The name marked at the front: not empty, without brackets. -/
def markedName? : List Char → Option (List Char)
  | '[' :: cs =>
    let name := cs.takeWhile (!isBracket ·)
    if name ≠ [] ∧ (cs.drop name.length).head? = some ']' then some name else none
  | _ => none

/-- The parts of a text, leftmost markers first, once `skip` more characters are passed over. -/
def parts (skip : Nat) : List Char → List Part
  | [] => []
  | c :: cs =>
    match skip, markedName? (c :: cs) with
    | k + 1, _ => parts k cs
    | 0, some name => .name name :: parts (name.length + 1) cs
    | 0, none => .char c :: parts 0 cs

/-- What may stand in a marker: a name that is not empty and has no brackets. -/
def IsMarkable (cs : List Char) : Prop := cs ≠ [] ∧ ∀ c ∈ cs, isBracket c = false

theorem markedName?_eq_some_iff {cs name : List Char} :
    markedName? cs = some name ↔ IsMarkable name ∧ '[' :: name ++ [']'] <+: cs := by
  have hopened : ∀ rest, markedName? ('[' :: rest) =
      if rest.takeWhile (!isBracket ·) ≠ [] ∧
        (rest.drop (rest.takeWhile (!isBracket ·)).length).head? = some ']' then
        some (rest.takeWhile (!isBracket ·)) else none := fun _ => rfl
  constructor
  · intro h
    unfold markedName? at h
    split at h
    · next rest =>
      simp only [Option.ite_none_right_eq_some, Option.some.injEq] at h
      obtain ⟨⟨hne, hclosed⟩, rfl⟩ := h
      refine ⟨⟨hne, fun c hc => by simpa using List.all_eq_true.mp List.all_takeWhile c hc⟩, ?_⟩
      obtain ⟨tail, htail⟩ := List.head?_eq_some_iff.mp hclosed
      have hsplit := List.take_append_drop (rest.takeWhile (!isBracket ·)).length rest
      rw [htail, ← List.prefix_iff_eq_take.mp (List.takeWhile_prefix _)] at hsplit
      exact ⟨tail, by rw [List.append_assoc, List.cons_append, List.singleton_append, hsplit]⟩
    · cases h
  · rintro ⟨⟨hne, hname⟩, tail, rfl⟩
    have htake : (name ++ ']' :: tail).takeWhile (!isBracket ·) = name := by
      rw [List.takeWhile_append_of_pos fun c hc => by rw [hname c hc]; rfl]
      simp [isBracket]
    rw [List.append_assoc, List.cons_append, List.singleton_append, hopened, htake, List.drop_left,
      if_pos ⟨hne, rfl⟩]

/-- A text and its parts: markers do not overlap, one is read wherever it starts behind those
before it, and every character outside of them stands. -/
inductive Marked : List Char → List Part → Prop
  | nil : Marked [] []
  | name {cs name rest : List Char} {ps : List Part} (hname : IsMarkable name)
    (hcs : cs = '[' :: name ++ [']'] ++ rest) (h : Marked rest ps) : Marked cs (.name name :: ps)
  | char {c : Char} {cs : List Char} {ps : List Part}
    (hplain : ∀ name, IsMarkable name → ¬ '[' :: name ++ [']'] <+: c :: cs) (h : Marked cs ps) :
    Marked (c :: cs) (.char c :: ps)

theorem marked_parts_drop (skip : Nat) (cs : List Char) :
    Marked (cs.drop skip) (parts skip cs) := by
  induction cs generalizing skip with
  | nil => simpa [parts] using Marked.nil
  | cons c cs ih =>
    unfold parts
    split
    · exact ih _
    · next name hname =>
      obtain ⟨hvalid, rest, hrest⟩ := markedName?_eq_some_iff.mp hname
      have hbehind : cs.drop (name.length + 1) = rest := by
        rw [List.append_assoc, List.cons_append, List.cons.injEq] at hrest
        simp [← hrest.2]
      exact .name hvalid hrest.symm (hbehind ▸ ih (name.length + 1))
    · next hnone =>
      refine .char (fun name hname hprefix => ?_) (ih 0)
      rw [markedName?_eq_some_iff.mpr ⟨hname, hprefix⟩] at hnone
      cases hnone

namespace Marked

variable {cs : List Char} {ps qs : List Part}

/-- A text has one reading only. -/
theorem unique (h : Marked cs ps) (h' : Marked cs qs) : ps = qs := by
  induction h generalizing qs with
  | nil =>
    cases h' with
    | nil => rfl
    | name _ hcs => cases hcs
  | @name cs name rest ps hname hcs _ ih =>
    have hmarked := markedName?_eq_some_iff.mpr ⟨hname, _, hcs.symm⟩
    cases h' with
    | nil => cases hcs
    | name hname' hcs' h' =>
      have hmarked' := markedName?_eq_some_iff.mpr ⟨hname', _, hcs'.symm⟩
      obtain rfl := Option.some.inj (hmarked.symm.trans hmarked')
      obtain rfl := List.append_cancel_left (hcs.symm.trans hcs')
      rw [ih h']
    | char hplain => exact absurd ⟨_, hcs.symm⟩ (hplain name hname)
  | char hplain _ ih =>
    cases h' with
    | name hname hcs => exact absurd ⟨_, hcs.symm⟩ (hplain _ hname)
    | char _ h' => rw [ih h']

/-- Nothing of the text is lost. -/
theorem flatMap_written (h : Marked cs ps) : ps.flatMap Part.written = cs := by
  induction h with
  | nil => rfl
  | name _ hcs _ ih =>
    rw [List.flatMap_cons, ih, hcs]
    rfl
  | char _ _ ih =>
    rw [List.flatMap_cons, ih]
    rfl

end Marked

theorem marked_parts (cs : List Char) : Marked cs (parts 0 cs) := marked_parts_drop 0 cs

theorem parts_eq_iff {cs : List Char} {ps : List Part} : parts 0 cs = ps ↔ Marked cs ps := by
  constructor
  · rintro rfl
    exact marked_parts cs
  · exact (marked_parts cs).unique

/-- A bracket that opens no marker stands. -/
example : parts 0 "[[a]]".toList = [.char '[', .name ['a'], .char ']'] := by decide

/-- The text with every marked name put through `f`. -/
def mapMarkers (f : String → String) (s : String) : String :=
  String.ofList ((parts 0 s.toList).flatMap fun
    | .char c => [c]
    | .name cs => (f (String.ofList cs)).toList)

end PolySql.Text
