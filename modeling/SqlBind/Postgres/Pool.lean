/-
Pools of connections. A pool is set up without connecting; its connection string
is read at once.
-/
import SqlBind.Error
import SqlBind.Postgres.ConnectionString

namespace SqlBind.Postgres

/-- A pool: where its connections go, and how many it holds at most. -/
structure Pool where
  settings : List ConnectionString.Setting
  maxSize : Nat

/-- How many connections a pool holds if not told otherwise. -/
def Pool.defaultSize : Nat := 16

/-- The pool for a connection string. -/
def Pool.create (target : String) (maxSize : Nat := Pool.defaultSize) : Except DbError Pool :=
  match ConnectionString.parse? target with
  | some settings => .ok { settings, maxSize }
  | none => .error (.connection "invalid connection string")

end SqlBind.Postgres
