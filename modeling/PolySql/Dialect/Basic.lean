/-!
Dialects: a name, which is also the engine that clauses are scoped to, a pair of identifier quotes,
a placeholder, and the flavor that decides every other spelling.
-/

namespace PolySql

inductive Flavor
  | ansi
  | sqlite
  | postgres
  | mysql
  | sqlServer
  deriving DecidableEq

structure Dialect where
  name : String
  openQuote : String
  closeQuote : String
  placeholder : String
  flavor : Flavor
  deriving DecidableEq

namespace Dialect

/-- A dialect of the plain flavor with quotes and a placeholder of its own. -/
abbrev custom (name openQuote closeQuote placeholder : String) : Dialect :=
  ⟨name, openQuote, closeQuote, placeholder, .ansi⟩

abbrev sqlite : Dialect := ⟨"sqlite", "\"", "\"", "?", .sqlite⟩

abbrev postgres : Dialect := ⟨"postgres", "\"", "\"", "%s", .postgres⟩

abbrev mysql : Dialect := ⟨"mysql", "`", "`", "%s", .mysql⟩

abbrev sqlServer : Dialect := ⟨"sqlserver", "[", "]", "?", .sqlServer⟩

def builtin : List Dialect := [sqlite, postgres, mysql, sqlServer]

end Dialect

end PolySql
