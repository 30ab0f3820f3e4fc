import Mathlib.Data.Multiset.Dedup
import Mathlib.Data.Multiset.Replicate
import Mathlib.Data.Multiset.UnionInter
import PolySql.Query.Clause

/-!
Set operations on multisets of rows. Main statement: which operations of an operand may as well be
taken last, so that the operand needs no parentheses behind the operation in front of it.
-/

namespace PolySql

/-- A set operation that counts repeated rows, or leaves every row once. -/
structure SetOperator where
  operation : SetOperation
  all : Bool
  deriving DecidableEq

namespace SetOperator

/-- How often a row is in the result, when it is in the operands `i` and `j` times. -/
def times : SetOperator → ℕ → ℕ → ℕ
  | ⟨.union, true⟩, i, j => i + j
  | ⟨.union, false⟩, i, j => min 1 (i + j)
  | ⟨.intersect, true⟩, i, j => min i j
  | ⟨.intersect, false⟩, i, j => min 1 (min i j)
  | ⟨.except, true⟩, i, j => i - j
  | ⟨.except, false⟩, i, j => min 1 i - j

/-- The same behind further operations, from the left. -/
def timesAll (i : ℕ) : List (SetOperator × ℕ) → ℕ
  | [] => i
  | (p, k) :: steps => timesAll (p.times i k) steps

theorem timesAll_append (i : ℕ) (steps rest : List (SetOperator × ℕ)) :
    timesAll i (steps ++ rest) = timesAll (timesAll i steps) rest := by
  induction steps generalizing i with
  | nil => rfl
  | cons s steps ih => exact ih _

section Combine

variable {Row : Type} [DecidableEq Row]

/-- The rows of the result. -/
def combine (o : SetOperator) (m n : Multiset Row) : Multiset Row :=
  match o with
  | ⟨.union, true⟩ => m + n
  | ⟨.union, false⟩ => (m + n).dedup
  | ⟨.intersect, true⟩ => m ∩ n
  | ⟨.intersect, false⟩ => (m ∩ n).dedup
  | ⟨.except, true⟩ => m - n
  | ⟨.except, false⟩ => m.dedup - n

def combineAll (m : Multiset Row) : List (SetOperator × Multiset Row) → Multiset Row
  | [] => m
  | (p, n) :: steps => combineAll (p.combine m n) steps

theorem combineAll_append (m : Multiset Row) (steps rest : List (SetOperator × Multiset Row)) :
    combineAll m (steps ++ rest) = combineAll (combineAll m steps) rest := by
  induction steps generalizing m with
  | nil => rfl
  | cons s steps ih => exact ih _

theorem count_dedup_eq_min (m : Multiset Row) (row : Row) :
    m.dedup.count row = min 1 (m.count row) := by
  rw [Multiset.count_dedup]
  split
  · next h =>
    have := Multiset.count_pos.mpr h
    omega
  · next h => rw [Multiset.count_eq_zero_of_notMem h, Nat.min_zero]

theorem count_combine (o : SetOperator) (m n : Multiset Row) (row : Row) :
    (o.combine m n).count row = o.times (m.count row) (n.count row) := by
  obtain ⟨operation, all⟩ := o
  cases operation <;> cases all <;>
    simp only [combine, times, count_dedup_eq_min, Multiset.count_add, Multiset.count_inter,
      Multiset.count_sub]

theorem count_combineAll (m : Multiset Row) (steps : List (SetOperator × Multiset Row))
    (row : Row) :
    (combineAll m steps).count row =
      timesAll (m.count row) (steps.map fun s => (s.1, s.2.count row)) := by
  induction steps generalizing m with
  | nil => rfl
  | cons s steps ih => rw [combineAll, ih, count_combine, List.map_cons, timesAll]

end Combine

/-- The operations only take rows away, and as long as rows may be repeated, no difference counts
them. -/
def Narrows : Bool → List SetOperator → Prop
  | _, [] => True
  | _, ⟨.union, _⟩ :: _ => False
  | repeated, ⟨.intersect, all⟩ :: ps => Narrows (repeated && all) ps
  | repeated, ⟨.except, all⟩ :: ps => (repeated → ¬ all) ∧ Narrows (repeated && all) ps

instance decidableNarrows : (repeated : Bool) → (ps : List SetOperator) →
    Decidable (Narrows repeated ps)
  | _, [] => inferInstanceAs (Decidable True)
  | _, ⟨.union, _⟩ :: _ => inferInstanceAs (Decidable False)
  | repeated, ⟨.intersect, all⟩ :: ps => decidableNarrows (repeated && all) ps
  | repeated, ⟨.except, all⟩ :: ps =>
    have := decidableNarrows (repeated && all) ps
    inferInstanceAs (Decidable (_ ∧ _))

/-- Behind the operation an operand needs no parentheses around its own operations `ps`. -/
def Regroups : SetOperator → List SetOperator → Prop
  | ⟨.union, true⟩, ps => ∀ p ∈ ps, p = ⟨.union, true⟩
  | ⟨.union, false⟩, ps =>
    (∀ p ∈ ps, p.operation = .union) ∧ ∀ p ∈ ps.getLast?, p = ⟨.union, false⟩
  | ⟨.intersect, _⟩, ps => Narrows true ps
  | ⟨.except, _⟩, ps => ps = []

instance (o : SetOperator) (ps : List SetOperator) : Decidable (o.Regroups ps) :=
  match o with
  | ⟨.union, true⟩ => inferInstanceAs (Decidable (∀ p ∈ ps, p = ⟨.union, true⟩))
  | ⟨.union, false⟩ =>
    inferInstanceAs (Decidable ((∀ p ∈ ps, p.operation = .union) ∧
      ∀ p ∈ ps.getLast?, p = ⟨.union, false⟩))
  | ⟨.intersect, _⟩ => inferInstanceAs (Decidable (Narrows true ps))
  | ⟨.except, _⟩ => inferInstanceAs (Decidable (ps = []))

section Step

variable {all : Bool}

theorem intersect_le (i j : ℕ) : times ⟨.intersect, all⟩ i j ≤ j := by
  cases all <;> simp only [times] <;> omega

theorem intersect_of_le {i j : ℕ} (hij : i ≤ j) (hj : ¬ all → j ≤ 1) :
    times ⟨.intersect, all⟩ i j = i := by
  cases all with
  | true => exact Nat.min_eq_left hij
  | false =>
    have := hj (by decide)
    simp only [times]
    omega

theorem except_zero {i : ℕ} (hi : ¬ all → i ≤ 1) : times ⟨.except, all⟩ i 0 = i := by
  cases all with
  | true => rfl
  | false => exact Nat.min_eq_right (hi (by decide))

theorem times_le_one {p : SetOperator} (hp : p.operation ≠ .union) {j : ℕ} (hj : p.all → j ≤ 1)
    (k : ℕ) : p.times j k ≤ 1 := by
  obtain ⟨operation, all⟩ := p
  cases all with
  | false => cases operation <;> simp only [times] <;> omega
  | true =>
    have := hj rfl
    cases operation with
    | union => exact absurd rfl hp
    | intersect | except =>
      simp only [times]
      omega

theorem intersect_intersect (all' : Bool) (i j k : ℕ) :
    times ⟨.intersect, all⟩ i (times ⟨.intersect, all'⟩ j k) =
      times ⟨.intersect, all'⟩ (times ⟨.intersect, all⟩ i j) k := by
  cases all <;> cases all' <;> simp only [times] <;> omega

/-- A difference that counts repeated rows must find none. -/
theorem intersect_except {all' : Bool} (i : ℕ) {j : ℕ} (hj : all' → j ≤ 1) (k : ℕ) :
    times ⟨.intersect, all⟩ i (times ⟨.except, all'⟩ j k) =
      times ⟨.except, all'⟩ (times ⟨.intersect, all⟩ i j) k := by
  cases all' with
  | false => cases all <;> simp only [times] <;> omega
  | true =>
    have := hj rfl
    cases all <;> simp only [times] <;> omega

end Step

section Sufficient

variable {steps : List (SetOperator × ℕ)}

theorem add_timesAll (h : ∀ p ∈ steps.map Prod.fst, p = ⟨.union, true⟩) (i j : ℕ) :
    i + timesAll j steps = timesAll (i + j) steps := by
  induction steps generalizing j with
  | nil => rfl
  | cons s steps ih =>
    obtain ⟨p, k⟩ := s
    obtain ⟨rfl, hsteps⟩ := List.forall_mem_cons.mp h
    rw [timesAll, ih hsteps, timesAll]
    congr 1
    exact (Nat.add_assoc i j k).symm

/-- Unions keep what is there. -/
theorem min_timesAll_union (h : ∀ p ∈ steps.map Prod.fst, p.operation = .union) {i m n : ℕ}
    (hmn : min 1 (i + m) = min 1 n) :
    min 1 (i + timesAll m steps) = min 1 (timesAll n steps) := by
  induction steps generalizing m n with
  | nil => exact hmn
  | cons s steps ih =>
    obtain ⟨⟨operation, all⟩, k⟩ := s
    obtain ⟨hunion, hsteps⟩ := List.forall_mem_cons.mp h
    obtain rfl : operation = .union := hunion
    refine ih hsteps ?_
    cases all <;> simp only [times] <;> omega

theorem intersect_timesAll {all repeated : Bool} (h : Narrows repeated (steps.map Prod.fst))
    (i : ℕ) {j : ℕ} (hj : ¬ repeated → j ≤ 1) :
    times ⟨.intersect, all⟩ i (timesAll j steps) =
      timesAll (times ⟨.intersect, all⟩ i j) steps := by
  induction steps generalizing repeated j with
  | nil => rfl
  | cons s steps ih =>
    obtain ⟨⟨operation, all'⟩, k⟩ := s
    have hone (hp : operation ≠ .union) (hr : ¬ (repeated && all')) :
        times ⟨operation, all'⟩ j k ≤ 1 := by
      refine times_le_one hp (fun hall => hj fun hrepeated => hr ?_) k
      rw [hrepeated]
      exact hall
    cases operation with
    | union => exact absurd h id
    | intersect =>
      rw [timesAll, ih h (hone (by decide)), timesAll, intersect_intersect]
    | except =>
      obtain ⟨hcounts, h⟩ := h
      rw [timesAll, ih h (hone (by decide)), timesAll,
        intersect_except i fun hall => hj fun hrepeated => hcounts hrepeated hall]

theorem times_timesAll {o : SetOperator} (h : o.Regroups (steps.map Prod.fst)) (i j : ℕ) :
    o.times i (timesAll j steps) = timesAll (o.times i j) steps := by
  obtain ⟨operation, all⟩ := o
  cases operation with
  | union =>
    cases all with
    | true => exact add_timesAll h i j
    | false =>
      obtain ⟨hunion, hlast⟩ := h
      rcases List.eq_nil_or_concat' steps with rfl | ⟨steps, ⟨p, k⟩, rfl⟩
      · rfl
      · rw [List.map_append] at hunion hlast
        obtain rfl : p = ⟨.union, false⟩ := hlast p List.getLast?_concat
        have hstart : min 1 (i + j) = min 1 (times ⟨.union, false⟩ i j) := by
          simp only [times]
          omega
        have hsame := min_timesAll_union (fun p hp => hunion p (List.mem_append_left _ hp)) hstart
        rw [timesAll_append, timesAll_append]
        simp only [timesAll, times] at hsame ⊢
        omega
  | intersect => exact intersect_timesAll h i fun hfalse => absurd rfl hfalse
  | except =>
    obtain rfl : steps = [] := List.map_eq_nil_iff.mp h
    rfl

end Sufficient

section Necessary

/-- Operands for the operations. -/
def operands (count : SetOperator → ℕ) (ps : List SetOperator) : List (SetOperator × ℕ) :=
  ps.map fun p => (p, count p)

theorem map_fst_operands (count : SetOperator → ℕ) (ps : List SetOperator) :
    (operands count ps).map Prod.fst = ps := by
  rw [operands, List.map_map]
  exact List.map_id' ps

theorem timesAll_zero_le (ps : List SetOperator) (i : ℕ) :
    timesAll i (operands (fun _ => 0) ps) ≤ i := by
  induction ps generalizing i with
  | nil => exact le_refl i
  | cons p ps ih =>
    refine (ih _).trans ?_
    obtain ⟨operation, all⟩ := p
    cases operation <;> cases all <;> simp only [times] <;> omega

/-- How often a row is to be in an operand that does not decide whether it is in the result. -/
def neutral (p : SetOperator) : ℕ := if p.operation = .intersect then 1 else 0

theorem timesAll_neutral_pos_iff (ps : List SetOperator) (i : ℕ) :
    0 < timesAll i (operands neutral ps) ↔ 0 < i := by
  induction ps generalizing i with
  | nil => exact Iff.rfl
  | cons p ps ih =>
    refine (ih _).trans ?_
    obtain ⟨operation, all⟩ := p
    cases operation with
    | intersect =>
      show 0 < times ⟨.intersect, all⟩ i 1 ↔ _
      cases all <;> simp only [times] <;> omega
    | union =>
      show 0 < times ⟨.union, all⟩ i 0 ↔ _
      cases all <;> simp only [times] <;> omega
    | except =>
      show 0 < times ⟨.except, all⟩ i 0 ↔ _
      cases all <;> simp only [times] <;> omega

variable {ps : List SetOperator}

theorem narrows_of_times {all repeated : Bool}
    (h : ∀ (i j : ℕ) (steps : List (SetOperator × ℕ)), (¬ repeated → j ≤ 1) →
      steps.map Prod.fst = ps → times ⟨.intersect, all⟩ i (timesAll j steps) =
        timesAll (times ⟨.intersect, all⟩ i j) steps) :
    Narrows repeated ps := by
  induction ps generalizing repeated with
  | nil => exact trivial
  | cons p ps ih =>
    have hmap (k : ℕ) : ((p, k) :: operands neutral ps).map Prod.fst = p :: ps :=
      congrArg (p :: ·) (map_fst_operands neutral ps)
    obtain ⟨operation, all'⟩ := p
    cases operation with
    | union =>
      -- Taken last, the union brings in a row that no intersection removes any more.
      have hrow := h 0 0 _ (fun _ => Nat.zero_le 1) (hmap 1)
      have hpos : 0 < timesAll (times ⟨.intersect, all⟩ 0 0)
          ((⟨.union, all'⟩, 1) :: operands neutral ps) := by
        rw [timesAll, timesAll_neutral_pos_iff]
        cases all' <;> simp [times]
      rw [← hrow] at hpos
      cases all <;> simp [times] at hpos
    | intersect =>
      refine ih fun i j steps hj hsteps => ?_
      have hall : ¬ all' → j ≤ 1 := fun hall => hj (by simp [hall])
      have hrow := h i j ((⟨.intersect, all'⟩, j) :: steps) (fun hr => hj (by simp [hr]))
        (congrArg _ hsteps)
      rwa [timesAll, timesAll, intersect_of_le le_rfl hall,
        intersect_of_le (intersect_le i j) hall] at hrow
    | except =>
      refine ⟨fun hrepeated hall => ?_, ih fun i j steps hj hsteps => ?_⟩
      · -- Of two rows one is left behind the difference, of the one in the intersection none.
        obtain rfl : all' = true := hall
        have hrow := h 1 2 _ (absurd hrepeated) (hmap 1)
        have hpos : 0 < timesAll 2 ((⟨.except, true⟩, 1) :: operands neutral ps) :=
          (timesAll_neutral_pos_iff ps _).mpr (by decide)
        have hzero : ¬ 0 < timesAll (times ⟨.intersect, all⟩ 1 2)
            ((⟨.except, true⟩, 1) :: operands neutral ps) := by
          rw [timesAll, timesAll_neutral_pos_iff]
          cases all <;> decide
        rw [← hrow] at hzero
        generalize timesAll 2 _ = k at hpos hzero
        cases all <;> simp only [times] at hzero <;> omega
      · have hall : ¬ all' → j ≤ 1 := fun hall => hj (by simp [hall])
        have hrow := h i j ((⟨.except, all'⟩, 0) :: steps) (fun hr => hj (by simp [hr]))
          (congrArg _ hsteps)
        rwa [timesAll, timesAll, except_zero hall,
          except_zero fun h => (intersect_le i j).trans (hall h)] at hrow

section Rows

variable {o : SetOperator}
  (h : ∀ (i j : ℕ) (steps : List (SetOperator × ℕ)), steps.map Prod.fst = ps →
    o.times i (timesAll j steps) = timesAll (o.times i j) steps)

include h

/-- With rows in the operand of `p` only, it is `p` that bounds how many are left. -/
theorem times_le_of_mem {p : SetOperator} (hp : p ∈ ps) (i k : ℕ) :
    ∃ x y, x ≤ o.times i 0 ∧ o.times i y ≤ p.times x k := by
  obtain ⟨l, r, rfl⟩ := List.append_of_mem hp
  have hrow := h i 0 (operands (fun _ => 0) l ++ (p, k) :: operands (fun _ => 0) r)
    (by rw [List.map_append, List.map_cons, map_fst_operands, map_fst_operands])
  rw [timesAll_append (o.times i 0), timesAll] at hrow
  exact ⟨_, _, timesAll_zero_le l _, hrow.trans_le (timesAll_zero_le r _)⟩

/-- The last operation decides. -/
theorem times_eq_of_last {l : List SetOperator} {p : SetOperator} (hps : ps = l ++ [p]) (i k : ℕ) :
    ∃ x, x ≤ o.times i 0 ∧ o.times i (p.times 0 k) = p.times x k := by
  have hrow := h i 0 (operands (fun _ => 0) l ++ [(p, k)])
    (by rw [hps, List.map_append, map_fst_operands]; rfl)
  rw [timesAll_append, timesAll_append] at hrow
  have hzero := Nat.le_zero.mp (timesAll_zero_le l 0)
  rw [hzero] at hrow
  exact ⟨_, timesAll_zero_le l _, hrow⟩

end Rows

/-- Behind a union that may be taken last stand unions only. -/
theorem operation_eq_union_of_times {all : Bool}
    (h : ∀ (i j : ℕ) (steps : List (SetOperator × ℕ)), steps.map Prod.fst = ps →
      times ⟨.union, all⟩ i (timesAll j steps) = timesAll (times ⟨.union, all⟩ i j) steps) :
    ∀ p ∈ ps, p.operation = .union := by
  rintro ⟨operation, all'⟩ hp
  cases operation with
  | union => rfl
  | intersect =>
    obtain ⟨x, y, -, hle⟩ := times_le_of_mem h hp 1 0
    cases all <;> cases all' <;> simp only [times] at hle <;> omega
  | except =>
    obtain ⟨x, y, hx, hle⟩ := times_le_of_mem h hp 1 1
    cases all <;> cases all' <;> simp only [times] at hx hle <;> omega

/-- Nothing stands behind a difference that may be taken last. -/
theorem eq_nil_of_times {all : Bool}
    (h : ∀ (i j : ℕ) (steps : List (SetOperator × ℕ)), steps.map Prod.fst = ps →
      times ⟨.except, all⟩ i (timesAll j steps) = timesAll (times ⟨.except, all⟩ i j) steps) :
    ps = [] := by
  rcases List.eq_nil_or_concat' ps with hps | ⟨l, ⟨operation, all'⟩, hps⟩
  · exact hps
  · cases operation with
    | union =>
      obtain ⟨x, -, heq⟩ := times_eq_of_last h hps 0 1
      cases all <;> cases all' <;> simp only [times] at heq <;> omega
    | intersect =>
      obtain ⟨x, -, heq⟩ := times_eq_of_last h hps 1 0
      cases all <;> cases all' <;> simp only [times] at heq <;> omega
    | except =>
      obtain ⟨x, hx, heq⟩ := times_eq_of_last h hps 1 1
      cases all <;> cases all' <;> simp only [times] at hx heq <;> omega

theorem regroups_of_times {o : SetOperator}
    (h : ∀ (i j : ℕ) (steps : List (SetOperator × ℕ)), steps.map Prod.fst = ps →
      o.times i (timesAll j steps) = timesAll (o.times i j) steps) :
    o.Regroups ps := by
  obtain ⟨operation, all⟩ := o
  cases operation with
  | union =>
    have hunion := operation_eq_union_of_times h
    cases all with
    | true =>
      rintro ⟨operation, all⟩ hp
      obtain rfl : operation = .union := hunion _ hp
      cases all with
      | true => rfl
      | false =>
        obtain ⟨x, y, -, hle⟩ := times_le_of_mem h hp 2 0
        simp only [times] at hle
        omega
    | false =>
      refine ⟨hunion, ?_⟩
      rintro ⟨operation, all⟩ hp
      obtain rfl : operation = .union := hunion _ (List.mem_of_getLast? hp)
      cases all with
      | false => rfl
      | true =>
        obtain ⟨l, hps⟩ := List.getLast?_eq_some_iff.mp hp
        obtain ⟨x, -, heq⟩ := times_eq_of_last h hps 1 2
        simp only [times] at heq
        omega
  | intersect => exact narrows_of_times fun i j steps _ hsteps => h i j steps hsteps
  | except => exact eq_nil_of_times h

end Necessary

variable {o : SetOperator} {ps : List SetOperator}

/-- These operations of an operand, and no others, may as well be taken last. -/
theorem regroups_iff :
    o.Regroups ps ↔
      ∀ (Row : Type) [DecidableEq Row] (a b : Multiset Row)
        (steps : List (SetOperator × Multiset Row)), steps.map Prod.fst = ps →
        o.combine a (combineAll b steps) = combineAll (o.combine a b) steps := by
  constructor
  · rintro h Row _ a b steps rfl
    ext row
    simp only [count_combine, count_combineAll]
    apply times_timesAll
    rwa [List.map_map]
  · intro h
    refine regroups_of_times fun i j steps hsteps => ?_
    have hrow := congrArg (Multiset.count ())
      (h Unit (.replicate i ()) (.replicate j ()) (steps.map fun s => (s.1, .replicate s.2 ()))
        (by rwa [List.map_map]))
    simp only [count_combine, count_combineAll, Multiset.count_replicate_self, List.map_map,
      Function.comp_def] at hrow
    simpa using hrow

end SetOperator

end PolySql
