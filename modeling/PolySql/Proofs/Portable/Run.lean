import Mathlib.Data.List.Forall2
import PolySql.Proofs.Success

/-!
Runs for two targets: both fail, with errors that go together, or both succeed, with results that
do. Main statement: steps that go together along two lists go together as a whole.
-/

namespace PolySql

variable {ε α β γ δ : Type}

/-- Both runs fail, with related errors, or both succeed, with related results. -/
inductive Concur (err : ε → ε → Prop) (r : α → β → Prop) : Except ε α → Except ε β → Prop
  | ok {a : α} {b : β} (h : r a b) : Concur err r (.ok a) (.ok b)
  | error {e e' : ε} (h : err e e') : Concur err r (.error e) (.error e')

namespace Concur

variable {err : ε → ε → Prop} {r : α → β → Prop} {s : γ → δ → Prop} {x : Except ε α}
  {y : Except ε β}

theorem pure {a : α} {b : β} (h : r a b) :
    Concur err r (pure a : Except ε α) (pure b : Except ε β) := ok h

theorem bind {f : α → Except ε γ} {g : β → Except ε δ} (h : Concur err r x y)
    (hf : ∀ a b, r a b → Concur err s (f a) (g b)) : Concur err s (x >>= f) (y >>= g) := by
  cases h with
  | ok h => exact hf _ _ h
  | error h => exact error h

theorem map {f : α → γ} {g : β → δ} (h : Concur err r x y) (hf : ∀ a b, r a b → s (f a) (g b)) :
    Concur err s (f <$> x) (g <$> y) := by
  cases h with
  | ok h => exact ok (hf _ _ h)
  | error h => exact error h

theorem succeeds_iff (h : Concur err r x y) : Succeeds x ↔ Succeeds y := by
  cases h <;> simp

theorem of_ok {a : α} {b : β} (h : Concur err r (.ok a) (.ok b)) : r a b := by
  cases h with
  | ok h => exact h

theorem of_error {e e' : ε} (h : Concur err r (.error e) (.error e')) : err e e' := by
  cases h with
  | error h => exact h

/-- Results along two lists are put together by a relation that appending keeps. -/
theorem mapM {ω : Type} {b : γ → List ω} {r : List ω → List ω → Prop} {f : α → Except ε γ}
    {g : β → Except ε γ} {as : List α} {bs : List β} (hnil : r [] [])
    (happend : ∀ {vs vs' ws ws'}, r vs vs' → r ws ws' → r (vs ++ ws) (vs' ++ ws'))
    (h : List.Forall₂ (fun a a' => Concur err (fun c c' => r (b c) (b c')) (f a) (g a')) as bs) :
    Concur err (fun cs cs' => r (cs.flatMap b) (cs'.flatMap b)) (as.mapM f) (bs.mapM g) := by
  induction h with
  | nil => exact .ok hnil
  | cons head tail ih =>
    rw [List.mapM_cons, List.mapM_cons]
    refine head.bind fun c c' hc => ?_
    refine ih.bind fun cs cs' hcs => .pure ?_
    rw [List.flatMap_cons, List.flatMap_cons]
    exact happend hc hcs

end Concur

end PolySql
