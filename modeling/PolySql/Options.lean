import PolySql.Dialect.Basic

/-!
What a query is compiled for: a dialect, and the names used where a clause gives none.
-/

namespace PolySql

structure Options where
  /-- What a path join adds to the singular of a table to name the key that refers to it. -/
  sourceKeySuffix : String := "Id"
  /-- The key column of the table that a path join refers to. -/
  targetKey : String := "Id"
  aggregateAlias : String := "count"

structure Target where
  dialect : Dialect
  options : Options

/-- The engine whose clauses are seen. -/
abbrev Target.engine (t : Target) : String := t.dialect.name

end PolySql
