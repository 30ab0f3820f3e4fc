import Mathlib.Algebra.Order.Group.Nat
import Mathlib.Algebra.Order.Pi
import Mathlib.Data.List.Basic

/-!
Two runs side by side: computations that agree, and lists that go together item by item at a cost.
Main statement: agreeing steps along such lists agree as a whole, at the same cost.
-/

namespace PolySql

/-- Both runs fail with the same error, or both succeed with related results. -/
inductive Agree {ε α β : Type} (r : α → β → Prop) : Except ε α → Except ε β → Prop
  | ok {a : α} {b : β} (h : r a b) : Agree r (.ok a) (.ok b)
  | error (e : ε) : Agree r (.error e) (.error e)

namespace Agree

variable {ε α β γ δ : Type} {r : α → β → Prop} {s : γ → δ → Prop}
  {x : Except ε α} {y : Except ε β}

theorem of_error {e e' : ε} (h : e = e') : Agree r (.error e) (.error e') := by
  rw [h]
  exact error e'

theorem pure {a : α} {b : β} (h : r a b) :
    Agree r (pure a : Except ε α) (pure b : Except ε β) := ok h

theorem mono {r' : α → β → Prop} (h : Agree r x y) (hr : ∀ a b, r a b → r' a b) :
    Agree r' x y := by
  cases h with
  | ok h => exact ok (hr _ _ h)
  | error e => exact error e

theorem bind {f : α → Except ε γ} {g : β → Except ε δ} (h : Agree r x y)
    (hf : ∀ a b, r a b → Agree s (f a) (g b)) : Agree s (x >>= f) (y >>= g) := by
  cases h with
  | ok h => exact hf _ _ h
  | error e => exact error e

theorem map {f : α → γ} {g : β → δ} (h : Agree r x y) (hf : ∀ a b, r a b → s (f a) (g b)) :
    Agree s (f <$> x) (g <$> y) := by
  cases h with
  | ok h => exact ok (hf _ _ h)
  | error e => exact error e

end Agree

/-- Lists of one length, related item by item, whose costs add up to at most `k`. -/
inductive Along {M α β : Type} [AddCommMonoid M] [PartialOrder M] (r : M → α → β → Prop) :
    M → List α → List β → Prop
  | nil {k : M} : Along r k [] []
  | cons {m n k : M} {a : α} {b : β} {as : List α} {bs : List β} (head : r m a b)
      (tail : Along r n as bs) (le : m + n ≤ k) : Along r k (a :: as) (b :: bs)

namespace Along

variable {M α β : Type} [AddCommMonoid M] [PartialOrder M]
  {r s : M → α → β → Prop} {m n k : M} {as as' : List α} {bs bs' : List β}

theorem mono (h : Along r n as bs) (hk : n ≤ k) : Along r k as bs := by
  cases h with
  | nil => exact nil
  | cons head tail le => exact cons head tail (le.trans hk)

theorem imp (h : Along r n as bs) (hr : ∀ m a b, a ∈ as → r m a b → s m a b) :
    Along s n as bs := by
  induction h with
  | nil => exact nil
  | cons head tail le ih =>
    exact cons (hr _ _ _ List.mem_cons_self head)
      (ih fun m a b ha => hr m a b (List.mem_cons_of_mem _ ha)) le

theorem length_eq (h : Along r n as bs) : as.length = bs.length := by
  induction h with
  | nil => rfl
  | cons head tail le ih => simp [ih]

theorem map {γ δ : Type} {s : M → γ → δ → Prop} {f : α → γ} {g : β → δ} (h : Along r n as bs)
    (hr : ∀ m a b, a ∈ as → r m a b → s m (f a) (g b)) : Along s n (as.map f) (bs.map g) := by
  induction h with
  | nil => exact nil
  | cons head tail le ih =>
    have htail := ih fun m a b ha => hr m a b (List.mem_cons_of_mem _ ha)
    exact cons (hr _ _ _ List.mem_cons_self head) htail le

theorem append [IsOrderedAddMonoid M] [CanonicallyOrderedAdd M] (h : Along r m as bs)
    (h' : Along r n as' bs') : Along r (m + n) (as ++ as') (bs ++ bs') := by
  induction h with
  | nil => exact h'.mono le_add_self
  | @cons m₁ m₂ m a b as bs head tail le ih =>
    refine cons head ih ?_
    rw [← add_assoc]
    exact add_le_add_left le n

/-- Items without cost. -/
theorem of_forall [CanonicallyOrderedAdd M] {r : M → α → α → Prop} (h : ∀ a ∈ as, r 0 a a) :
    Along r k as as := by
  induction as with
  | nil => exact nil
  | cons a as ih =>
    have htail : Along r k as as := ih fun b hb => h b (List.mem_cons_of_mem _ hb)
    exact cons (h a List.mem_cons_self) htail (zero_add k).le

theorem mapM {ε γ δ : Type} {s : M → γ → δ → Prop} {f : α → Except ε γ} {g : β → Except ε δ}
    (h : Along r n as bs) (hf : ∀ m a b, r m a b → Agree (s m) (f a) (g b)) :
    Agree (Along s n) (as.mapM f) (bs.mapM g) := by
  induction h with
  | nil => exact Agree.ok nil
  | cons head tail le ih =>
    rw [List.mapM_cons, List.mapM_cons]
    refine (hf _ _ _ head).bind fun x y hxy => ?_
    refine ih.bind fun xs ys hs => ?_
    exact Agree.pure (cons hxy hs le)

theorem flatten [IsOrderedAddMonoid M] [CanonicallyOrderedAdd M] {as : List (List α)}
    {bs : List (List β)} (h : Along (Along r) n as bs) : Along r n as.flatten bs.flatten := by
  induction h with
  | nil => exact nil
  | cons head tail le ih => exact (head.append ih).mono le

end Along

end PolySql
