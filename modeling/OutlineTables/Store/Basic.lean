import OutlineTables.Number.Scaled
import OutlineTables.Rows.Record
import OutlineTables.Schema.Basic

/-!
Stored rows. A relation keeps its rows in the order of their insertion.
-/
namespace OutlineTables

/-- A stored value; truth values are stored as one and zero. -/
inductive Cell where
  | null
  | int (n : Int)
  | real (x : Binary64)
  | text (t : Text)
deriving DecidableEq, Repr

namespace Cell

/-- An integer of at most 64 bits, else a floating point number. -/
def ofInt (n : Int) : Cell :=
  if -9223372036854775808 ≤ n ∧ n < 9223372036854775808 then int n
  else real (Binary64.ofLongInt n)

def ofBool (b : Bool) : Cell := int (if b then 1 else 0)

/-- What a column stores for a value; its literal denotes this. -/
def ofValue (c : Column) (v : Value) : Cell :=
  match c.type, v with
  | _, .null => null
  | .boolean, v => ofBool v.truthy
  | _, .bool b => ofBool b
  | _, .int n => ofInt n
  | _, .text t => text t
  | _, _ => null

def toValue : Cell → Value
  | null => .null
  | int n => .int n
  | real x => .float x
  | text t => .text t

/-- Nulls come before numbers, and numbers before texts, which are compared by code points. -/
def le : Cell → Cell → Bool
  | null, _ => true
  | _, null => false
  | int m, int n => decide (m ≤ n)
  | int _, _ => true
  | _, int _ => false
  | real _, _ => true
  | _, real _ => false
  | text s, text t => s.le t

/-- The first difference decides. -/
def listLe : List Cell → List Cell → Bool
  | [], _ => true
  | _, [] => false
  | a :: as, b :: bs => if a = b then listLe as bs else a.le b

end Cell

/-- The columns of a table with what is stored in them, in the order of the table. -/
abbrev Row := List (String × Cell)

namespace Row

def cell (r : Row) (column : String) : Cell := (r.lookup column).getD .null

/-- The cells of several columns. -/
def key (columns : List String) (r : Row) : List Cell := columns.map r.cell

/-- The row with other cells in some columns. -/
def withCells (r : Row) (cells : Row) : Row :=
  r.map fun (column, c) => (column, (cells.lookup column).getD c)

/-- Whether the row has all these cells. -/
def agrees (r cells : Row) : Bool := cells.all fun (column, c) => r.cell column = c

end Row

namespace Table

/-- The row of a record; columns that it leaves out are null. -/
def row (t : Table) (values : Record) : Row :=
  t.columns.map fun c => (c.name, Cell.ofValue c ((values.lookup c.name).getD .null))

/-- The cells of those columns that a record names. -/
def cells (t : Table) (values : Record) : Row :=
  (t.columns.filter fun c => (values.lookup c.name).isSome).map fun c =>
    (c.name, Cell.ofValue c ((values.lookup c.name).getD .null))

/-- The primary key of a row. -/
def keyOf (t : Table) (r : Row) : List Cell := r.key t.primaryKey

end Table

/-- A table with its rows. -/
structure Relation where
  table : Table
  rows : List Row := []
deriving DecidableEq, Repr

/-- Tables with their rows, parents first. -/
structure Store where
  relations : List Relation := []
deriving DecidableEq, Repr

namespace Store

/-- The tables of a schema without rows. -/
def ofSchema (s : Schema) : Store := ⟨s.tables.map (⟨·, []⟩)⟩

def relation? (s : Store) (name : String) : Option Relation :=
  s.relations.find? (·.table.name = name)

def rows (s : Store) (name : String) : List Row := ((s.relation? name).map (·.rows)).getD []

end Store

/-- The rows in the order of their primary keys. -/
def Relation.sortedRows (r : Relation) : List Row :=
  r.rows.mergeSort fun a b => Cell.listLe (r.table.keyOf a) (r.table.keyOf b)

end OutlineTables
