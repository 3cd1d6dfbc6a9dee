import OutlineTables.Proofs.Rows.Integrity
import OutlineTables.Proofs.Sql.Parts
import OutlineTables.Sql.Definition

/-!
The scripts of a schema: definitions, removals and insertions. Foreign keys lead to tables that are
declared before, so scripts that keep the order of the declarations, or reverse it, find what they
name and remove nothing that is still needed.
-/
namespace OutlineTables

/-! ### Definitions and removals -/

namespace Sql

/-- What a script creates or drops: the type of an enumeration, or a table. -/
inductive Item where
  | type (t : Table) (c : Column)
  | table (t : Table)

namespace Item

def create (d : Dialect) : Item → Text
  | type t c => "CREATE TYPE ".toList ++ t.enumType c ++ " AS ENUM ".toList ++ allowedList c ++ [';']
  | table t => createTable d t

def drop : Item → Text
  | type t c => "DROP TYPE IF EXISTS ".toList ++ t.enumType c ++ [';']
  | table t => "DROP TABLE IF EXISTS ".toList ++ t.name.toList ++ [';']

end Item

variable {s : Schema}

/-- Insertions of the rows of a row set: those of each table in the order of its rows, and none in
front of one that goes into a table that its own table refers to. -/
structure Inserts (s : Schema) (rows : List (String × List Record)) (placed : List Placed) :
    Prop where
  declared : ∀ p ∈ placed, p.table ∈ s.tables ∧ p.table.name ∈ rows.map (·.1)
  rows : ∀ name records, (name, records) ∈ rows →
    (placed.filter (·.table.name = name)).map (·.values) = records
  parents : placed.Pairwise fun p q => ¬p.table.RefersTo q.table

variable {write : LiteralWriter} {rows : List (String × List Record)} {texts : List Text}

end Sql

end OutlineTables
