import PolySql.Proofs.Grammar
import PolySql.Query.Lookup

/-!
The meaning of conditions for an engine, given which tests hold: the members that it sees, cut into
runs by OR, with every group one unit.
-/

namespace PolySql

variable {Q : Type} (engine : String) (σ : Test Q → Bool)

/-- Whether a test holds; no value is in the empty list. -/
def Test.holds : Test Q → Bool
  | .oneOf _ [] => false
  | t => σ t

mutual

/-- The tests that the engine sees, through groups that it sees. -/
def Condition.tests : Condition Q → List (Test Q)
  | .test _ t => [t]
  | .group _ members => Condition.testsOf members

def Condition.testsOf : List (Scoped (Condition Q)) → List (Test Q)
  | [] => []
  | ⟨_, e, c⟩ :: rest =>
    if e == wildcard || e == engine then c.tests ++ Condition.testsOf rest
    else Condition.testsOf rest

end

/-- The value of connected units, if there are any. -/
def unitsValue : List (Bool × Bool) → Option Bool
  | [] => none
  | units => some (disjunction units)

mutual

/-- The value of a condition; an empty group has none. -/
def Condition.meaning : Condition Q → Option Bool
  | .test flags t => some (t.holds σ != flags.isNot)
  | .group flags members => (unitsValue (Condition.units members)).map (· != flags.isNot)

/-- The members that the engine sees and that are no empty groups: whether OR connects each to the
one before it, and its value. -/
def Condition.units : List (Scoped (Condition Q)) → List (Bool × Bool)
  | [] => []
  | ⟨_, e, c⟩ :: rest =>
    if e == wildcard || e == engine then
      match c.meaning with
      | none => Condition.units rest
      | some a => (c.flags.isOr, a) :: Condition.units rest
    else Condition.units rest

end

end PolySql
