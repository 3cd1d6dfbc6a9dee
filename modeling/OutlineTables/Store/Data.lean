import OutlineTables.Rows.Schema
import OutlineTables.Store.Basic
import OutlineTables.Value.Coerce

/-!
Stores as untyped values: the rows of each table in their order.
-/
namespace OutlineTables

namespace Cell

/-- A stored value from an untyped one; truth values and what holds other values are none. -/
def read? : Value → Option Cell
  | .null => some null
  | .int n => some (int n)
  | .float x => some (real x)
  | .text t => some (text t)
  | _ => none

end Cell

namespace Row

def toValue (r : Row) : Value := .object (r.map fun (column, c) => (column, c.toValue))

/-- A row with the columns of a table. -/
def read? (t : Table) (v : Value) : Option Row :=
  t.columnNames.mapM fun column => do some (column, ← v.fieldOf? column Cell.read?)

end Row

namespace Relation

def toValue (r : Relation) : Value := .list (r.rows.map Row.toValue)

def read? (t : Table) (v : Value) : Option Relation := do
  some ⟨t, ← (← v.asList?).mapM (Row.read? t)⟩

end Relation

namespace Store

def toValue (s : Store) : Value :=
  .object (s.relations.map fun r => (r.table.name, r.toValue))

/-- A store with all tables of the rows of outlines. -/
def read? (v : Value) : Option Store := do
  some ⟨← Rows.schema.tables.mapM fun t => v.fieldOf? t.name (Relation.read? t)⟩

end Store

end OutlineTables
