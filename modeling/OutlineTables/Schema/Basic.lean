import OutlineTables.Text.Basic

/-!
Relational schemas: tables in an order in which every parent comes before its children.
-/
namespace OutlineTables

inductive ColumnType where
  | boolean
  | enum
  | integer
  | text
deriving DecidableEq, Repr

namespace ColumnType

def name : ColumnType → String
  | boolean => "boolean"
  | enum => "enum"
  | integer => "integer"
  | text => "text"

def all : List ColumnType := [boolean, enum, integer, text]

end ColumnType

structure Column where
  name : String
  type : ColumnType
  description : String := ""
  notNull : Bool := false
  /-- The values of an enumeration. -/
  allowed : List Text := []
deriving DecidableEq, Repr

structure ForeignKey where
  columns : List String
  parent : String
  parentColumns : List String
  onDelete : String := "CASCADE"
  onUpdate : String := "CASCADE"
deriving DecidableEq, Repr

structure Table where
  name : String
  description : String := ""
  columns : List Column
  primaryKey : List String
  foreignKeys : List ForeignKey := []
deriving DecidableEq, Repr

structure Schema where
  tables : List Table
deriving DecidableEq, Repr

/-- A name that a schema does not declare. -/
inductive LookupFault where
  | unknownTable (name : String)
  | unknownColumn (name table : String)
deriving DecidableEq, Repr

def LookupFault.message : LookupFault → Text
  | unknownTable name => "Unknown table ".toList ++ name.toList
  | unknownColumn name table =>
    "Unknown column ".toList ++ name.toList ++ " in table ".toList ++ table.toList

namespace Table

def columnNames (t : Table) : List String := t.columns.map (·.name)

/-- The first column of a name. -/
def column (t : Table) (name : String) : Except LookupFault Column :=
  match t.columns.find? (·.name = name) with
  | some c => .ok c
  | none => .error (.unknownColumn name t.name)

def enumColumns (t : Table) : List Column := t.columns.filter (·.type = .enum)

end Table

namespace Schema

/-- The first table of a name. -/
def table (s : Schema) (name : String) : Except LookupFault Table :=
  match s.tables.find? (·.name = name) with
  | some t => .ok t
  | none => .error (.unknownTable name)

/-- The enumerations with their tables, in the order of declaration. -/
def enumColumns (s : Schema) : List (Table × Column) :=
  s.tables.flatMap fun t => t.enumColumns.map (t, ·)

end Schema

end OutlineTables
