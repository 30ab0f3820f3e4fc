import PolySql.Proofs.Bindings
import PolySql.Proofs.Removal
import PolySql.Proofs.Sentence

/-!
Windows of rows, and the clauses that are written for them. Main statement: read as the database of
each built-in dialect does, the clauses skip and take the rows that the window asks for.
-/

namespace PolySql

open Text

/-- The rows that are asked for: how many to skip, and how many of those behind to take, if not
all. -/
structure Rows where
  skip : ℕ
  take : Option ℕ
  deriving DecidableEq

/-- A number that is not positive counts as none. -/
def Window.rows (w : Window) : Rows :=
  ⟨(w.offset.getD 0).toNat, (w.limit.filter (0 < ·)).map Int.toNat⟩

section Reader

/-- A word of a paging clause: text, or the value bound at a placeholder. -/
inductive PagingWord
  | text (s : String)
  | bound (v : Json)

/-- The width of a space. -/
def spaceWidth : List Char → Nat
  | ' ' :: _ => 1
  | _ => 0

def words (s : String) : List String :=
  ((pieces spaceWidth 0 s.toList).map String.ofList).filter (· ≠ "")

/-- Words with the values at the placeholders among them, each of which is used. -/
def bindWords (placeholder : String) : List String → List Json → Option (List PagingWord)
  | [], [] => some []
  | [], _ :: _ => none
  | s :: rest, vs =>
    if s = placeholder ∨ s = "(" ++ placeholder ++ ")" then
      match vs with
      | [] => none
      | v :: vs => (.bound v :: ·) <$> bindWords placeholder rest vs
    else (.text s :: ·) <$> bindWords placeholder rest vs

def PagingWord.count? : PagingWord → Option ℕ
  | .bound (.int n) => n.toNat?
  | _ => none

namespace Flavor

/-- How many rows a LIMIT takes: a bound number of them, or all by the literal that says so. -/
def limit? : Flavor → PagingWord → Option (Option ℕ)
  | .sqlite, .text "-1" => some none
  | .mysql, .text "18446744073709551615" => some none
  | _, n => some <$> n.count?

/-- Reads the clause in front of the columns. -/
def topRows : Flavor → List PagingWord → Option Rows
  | .sqlServer, [.text "TOP", n] => (fun n => ⟨0, some n⟩) <$> n.count?
  | _, _ => none

/-- Reads the clauses behind the ordering. -/
def tailRows : Flavor → List PagingWord → Option Rows
  | _, [] => some ⟨0, none⟩
  | .sqlServer, [.text "OFFSET", k, .text "ROWS"] => (fun k => ⟨k, none⟩) <$> k.count?
  | .sqlServer, [.text "OFFSET", k, .text "ROWS", .text "FETCH", .text "NEXT", n, .text "ROWS",
      .text "ONLY"] => do return ⟨← k.count?, ← some <$> n.count?⟩
  | .sqlServer, _ => none
  | .postgres, [.text "OFFSET", k] => (fun k => ⟨k, none⟩) <$> k.count?
  | flavor, [.text "LIMIT", n] => (fun n => ⟨0, n⟩) <$> flavor.limit? n
  | flavor, [.text "LIMIT", n, .text "OFFSET", k] => do return ⟨← k.count?, ← flavor.limit? n⟩
  | _, _ => none

end Flavor

/-- Reads the paging clauses of a select, which has them in one of the two places at most. -/
def Dialect.readRows (d : Dialect) (top tail : Fragment) : Option Rows := do
  let top ← bindWords d.placeholder (words top.text) top.bindings
  let tail ← bindWords d.placeholder (words tail.text) tail.bindings
  match top, tail with
  | [], tail => d.flavor.tailRows tail
  | top, [] => d.flavor.topRows top
  | _, _ => none

end Reader

namespace Dialect

variable (d : Dialect)

/-- In front of the columns. -/
def inFront (window : Option Window) : Fragment :=
  match window.bind d.top with
  | none => ∅
  | some top => " " ++ top

/-- Behind the ordering. -/
def behind (window : Option Window) : Fragment :=
  .spaced true [(window.bind d.limit).getD ∅, (window.bind d.offset).getD ∅]

end Dialect

section Paging

variable {d : Dialect} (w : Window)

theorem positive_cases (o : Option Int) :
    (o.filter (0 < ·) = none ∧ (o.getD 0).toNat = 0) ∨
      ∃ n : ℕ, o.filter (0 < ·) = some (n : Int) ∧ (o.getD 0).toNat = n := by
  cases o with
  | none => exact .inl ⟨rfl, rfl⟩
  | some i =>
    by_cases hi : 0 < i
    · obtain ⟨n, rfl⟩ := Int.eq_ofNat_of_zero_le hi.le
      exact .inr ⟨n, by simpa using hi, rfl⟩
    · exact .inl ⟨by simpa using hi, by simpa using Int.not_lt.mp hi⟩

/-- What is written for a window reads as the window. -/
theorem readRows_window (hd : d ∈ Dialect.builtin) :
    d.readRows (d.inFront (some w)) (d.behind (some w)) = some w.rows := by
  simp only [Dialect.builtin, List.mem_cons, List.not_mem_nil, or_false] at hd
  unfold Dialect.inFront Dialect.behind Dialect.top Dialect.limit Dialect.offset Window.rows
  rcases positive_cases w.limit with ⟨htake, -⟩ | ⟨n, htake, -⟩ <;>
    rcases positive_cases w.offset with ⟨hskip, hoffset⟩ | ⟨k, hskip, hoffset⟩ <;>
    simp only [Option.bind_some, Window.take?, Window.skip?, htake, hskip, hoffset] <;>
    rcases hd with rfl | rfl | rfl | rfl <;>
    simp [Dialect.readRows, Fragment.spaced, Dialect.bindCount, Dialect.bind] <;> rfl

theorem inFront_eq_empty_or_behind_eq_empty :
    d.inFront (some w) = ∅ ∨ d.behind (some w) = ∅ := by
  unfold Dialect.inFront Dialect.behind Dialect.top Dialect.limit Dialect.offset
  simp only [Option.bind_some]
  cases d.flavor <;> cases w.take? <;> cases w.skip? <;> simp [Fragment.spaced]

theorem bindings_inFront : (d.inFront (some w)).bindings = ((d.top w).getD ∅).bindings := by
  unfold Dialect.inFront
  rw [Option.bind_some]
  cases d.top w <;> simp

/-- The numbers that count are bound, each once. -/
theorem bindings_window_perm :
    ((d.inFront (some w)).bindings ++ (d.behind (some w)).bindings).Perm
      (Dialect.counted w.take? ++ Dialect.counted w.skip?) := by
  have hperm := d.windowed_perm w []
  rw [Dialect.windowed, List.append_nil, List.nil_append] at hperm
  rw [bindings_inFront, Dialect.behind, Fragment.bindings_spaced]
  simpa using hperm

/-- A window without a positive number writes nothing. -/
theorem window_eq_empty (htake : w.limit.getD 0 ≤ 0) (hskip : w.offset.getD 0 ≤ 0) :
    d.inFront (some w) = ∅ ∧ d.behind (some w) = ∅ := by
  have hnone : ∀ o : Option Int, o.getD 0 ≤ 0 → o.filter (0 < ·) = none := by
    intro o ho
    cases o with
    | none => rfl
    | some i => simpa using ho
  unfold Dialect.inFront Dialect.behind Dialect.top Dialect.limit Dialect.offset
  simp only [Option.bind_some, Window.take?, Window.skip?, hnone _ htake, hnone _ hskip]
  cases d.flavor <;> exact ⟨rfl, rfl⟩

theorem ends_placeholder (hd : d ∈ Dialect.builtin) : Ends d.placeholder := by
  simp only [Dialect.builtin, List.mem_cons, List.not_mem_nil, or_false] at hd
  rcases hd with rfl | rfl | rfl | rfl
  · exact ⟨'?', [], by decide, by decide⟩
  · exact ⟨'s', ['%'], by decide, by decide⟩
  · exact ⟨'s', ['%'], by decide, by decide⟩
  · exact ⟨'?', [], by decide, by decide⟩

theorem solid_top {f : Fragment} (h : d.top w = some f) : Solid f.text := by
  unfold Dialect.top at h
  split at h
  · obtain rfl := Option.some.inj h
    exact solid_of_ends (Starts.append ⟨'T', "OP (".toList, by decide, by decide⟩ _)
      ⟨')', [], by decide, by decide⟩
  · cases h

theorem solid_limit (hd : d ∈ Dialect.builtin) {f : Fragment} (h : d.limit w = some f) :
    Solid f.text := by
  have hstarts : Starts "LIMIT " := ⟨'L', "IMIT ".toList, by decide, by decide⟩
  unfold Dialect.limit at h
  split at h
  · cases h
  · obtain rfl := Option.some.inj h
    exact ⟨by decide, by decide⟩
  · obtain rfl := Option.some.inj h
    exact ⟨by decide, by decide⟩
  · obtain rfl := Option.some.inj h
    exact solid_of_ends hstarts (ends_placeholder hd)
  · cases h

theorem solid_offset (hd : d ∈ Dialect.builtin) {f : Fragment} (h : d.offset w = some f) :
    Solid f.text := by
  have hstarts : Starts "OFFSET " := ⟨'O', "FFSET ".toList, by decide, by decide⟩
  unfold Dialect.offset at h
  split at h
  · cases h
  · obtain rfl := Option.some.inj h
    exact solid_of_ends (((hstarts.append _).append _).append _)
      ⟨'Y', " ROWS ONL".toList, by decide, by decide⟩
  · obtain rfl := Option.some.inj h
    exact solid_of_ends (hstarts.append _) ⟨'S', " ROW".toList, by decide, by decide⟩
  · obtain rfl := Option.some.inj h
    exact solid_of_ends hstarts (ends_placeholder hd)

/-- Stripping leaves a clause as it is, or the lack of one. -/
theorem strip_getD {o : Option Fragment} (h : ∀ f, o = some f → Solid f.text) :
    (o.getD ∅).strip = o.getD ∅ := by
  cases o with
  | none => rfl
  | some f => exact Fragment.strip_of_solid (h f rfl)

end Paging

end PolySql
