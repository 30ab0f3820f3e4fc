import PolySql.Fragment

/-!
A binder: the values bound so far, and calls that bind more and answer with SQL text. A call that
fails binds nothing.
-/

namespace PolySql

inductive BinderCall
  | parameter (value : Bound)
  | parametrize (values : List Bound)
  | raw (expression : String) (bindings : List Bound)

structure Binder where
  placeholder : String := "?"
  bindings : List Json := []

namespace Binder

/-- What a call writes and binds. -/
def fragment (placeholder : String) : BinderCall → Except CompileError Fragment
  | .parameter value => .ok (value.fragment placeholder)
  | .parametrize values => .ok (bindAll placeholder values)
  | .raw expression bindings => fill placeholder expression bindings

def call (b : Binder) (c : BinderCall) : Binder × Except CompileError String :=
  match fragment b.placeholder c with
  | .ok f => ({ b with bindings := b.bindings ++ f.bindings }, .ok f.text)
  | .error e => (b, .error e)

/-- The answers to calls in a row, each with the bindings after it. -/
def run (b : Binder) : List BinderCall → List (Except CompileError String × List Json)
  | [] => []
  | c :: rest =>
    let (next, answer) := b.call c
    (answer, next.bindings) :: run next rest

end Binder

end PolySql
