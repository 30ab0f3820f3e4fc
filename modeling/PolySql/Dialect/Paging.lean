import PolySql.Dialect.Basic
import PolySql.Fragment

/-!
Pagination and row locks in each flavor.
-/

namespace PolySql

/-- The number of rows to take, where it is positive. -/
def Window.take? (w : Window) : Option Int := w.limit.filter (0 < ·)

/-- The number of rows to skip, where it is positive. -/
def Window.skip? (w : Window) : Option Int := w.offset.filter (0 < ·)

namespace Dialect

variable (d : Dialect)

def bind (v : Json) : Fragment := ⟨d.placeholder, [v]⟩

def bindCount (n : Int) : Fragment := d.bind (.int n)

/-- The clause between SELECT and its columns: T-SQL takes rows here unless it also skips some. -/
def top (w : Window) : Option Fragment :=
  match d.flavor, w.take?, w.skip? with
  | .sqlServer, some n, none => some ("TOP (" ++ d.bindCount n ++ ")")
  | _, _, _ => none

/-- The LIMIT clause. SQLite and MySQL need one in front of an OFFSET: an unlimited one. -/
def limit (w : Window) : Option Fragment :=
  match d.flavor, w.take?, w.skip? with
  | .sqlServer, _, _ => none
  | .sqlite, none, some _ => some "LIMIT -1"
  | .mysql, none, some _ => some "LIMIT 18446744073709551615"
  | _, some n, _ => some ("LIMIT " ++ d.bindCount n)
  | _, none, _ => none

/-- The OFFSET clause. T-SQL takes rows here when it skips some. -/
def offset (w : Window) : Option Fragment :=
  match d.flavor, w.skip?, w.take? with
  | _, none, _ => none
  | .sqlServer, some k, some n =>
    some ("OFFSET " ++ d.bindCount k ++ " ROWS FETCH NEXT " ++ d.bindCount n ++ " ROWS ONLY")
  | .sqlServer, some k, none => some ("OFFSET " ++ d.bindCount k ++ " ROWS")
  | _, some k, _ => some ("OFFSET " ++ d.bindCount k)

/-- The locking clause, in the flavors that have one. -/
def lock (mode : LockMode) : Option String :=
  match d.flavor, mode with
  | .postgres, .update | .mysql, .update => some "FOR UPDATE"
  | .postgres, .share | .mysql, .share => some "FOR SHARE"
  | _, _ => none

end Dialect

end PolySql
