import PolySql.Query.Clause

/-!
The enumerations of clauses and the names of their members.
-/

namespace PolySql

def JoinType.name : JoinType → String
  | .inner => "INNER"
  | .left => "LEFT"
  | .right => "RIGHT"
  | .full => "FULL"
  | .cross => "CROSS"

def JoinType.all : List JoinType := [.inner, .left, .right, .full, .cross]

def SetOperation.name : SetOperation → String
  | .union => "union"
  | .intersect => "intersect"
  | .except => "except"

def SetOperation.all : List SetOperation := [.union, .intersect, .except]

def LockMode.name : LockMode → String
  | .update => "update"
  | .share => "share"

def LockMode.all : List LockMode := [.update, .share]

end PolySql
