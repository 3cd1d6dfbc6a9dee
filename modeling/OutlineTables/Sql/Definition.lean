import OutlineTables.Sql.Literal

/-!
Definitions of the tables of a schema, and scripts. One dialect has types for enumerations, the
other holds them as text with a check.
-/
namespace OutlineTables

/-- The name of the type of an enumeration. -/
def Table.enumType (t : Table) (c : Column) : Text :=
  "enum_".toList ++ t.name.toList ++ '_' :: c.name.toList

namespace Dialect

def type (d : Dialect) (t : Table) (c : Column) : Text :=
  match d, c.type with
  | sqlite, .boolean => "INTEGER".toList
  | sqlite, .integer => "INTEGER".toList
  | sqlite, .enum => "TEXT".toList
  | sqlite, .text => "TEXT".toList
  | postgres, .boolean => "BOOLEAN".toList
  | postgres, .integer => "INTEGER".toList
  | postgres, .enum => t.enumType c
  | postgres, .text => "TEXT".toList

end Dialect

namespace Sql

def nameList (names : List String) : Text := parenthesized (names.map String.toList)

/-- The values of an enumeration, quoted with their line feeds. -/
def allowedList (c : Column) : Text := parenthesized (c.allowed.map quote)

def columnDefinition (d : Dialect) (t : Table) (c : Column) : Text :=
  let required := if c.notNull then " NOT NULL".toList else []
  let check :=
    if d = .sqlite ∧ c.type = .enum then
      " CHECK (".toList ++ c.name.toList ++ " IN ".toList ++ allowedList c ++ [')']
    else []
  c.name.toList ++ ' ' :: d.type t c ++ required ++ check

def foreignKeyDefinition (k : ForeignKey) : Text :=
  "FOREIGN KEY ".toList ++ nameList k.columns ++ " REFERENCES ".toList ++ k.parent.toList ++
    ' ' :: nameList k.parentColumns ++ " ON DELETE ".toList ++ k.onDelete.toList ++
    " ON UPDATE ".toList ++ k.onUpdate.toList

def createTable (d : Dialect) (t : Table) : Text :=
  "CREATE TABLE IF NOT EXISTS ".toList ++ t.name.toList ++ ' ' ::
    parenthesized (t.columns.map (columnDefinition d t) ++
      ["PRIMARY KEY ".toList ++ nameList t.primaryKey] ++
      t.foreignKeys.map foreignKeyDefinition) ++ [';']

/-- Types first, then the tables, parents before children. -/
def createSchema (d : Dialect) (s : Schema) : List Text :=
  let types :=
    match d with
    | .sqlite => []
    | .postgres => s.enumColumns.map fun (t, c) =>
      "CREATE TYPE ".toList ++ t.enumType c ++ " AS ENUM ".toList ++ allowedList c ++ [';']
  types ++ s.tables.map (createTable d)

/-- The tables, children before parents, then the types. -/
def dropSchema (d : Dialect) (s : Schema) : List Text :=
  let types :=
    match d with
    | .sqlite => []
    | .postgres => s.enumColumns.map fun (t, c) =>
      "DROP TYPE IF EXISTS ".toList ++ t.enumType c ++ [';']
  (s.tables.reverse.map fun t => "DROP TABLE IF EXISTS ".toList ++ t.name.toList ++ [';']) ++ types

/-- Statements as one transaction. Foreign keys are a setting of the connection in one dialect. -/
def transaction (d : Dialect) (statements : List Text) : Text :=
  let setting :=
    match d with
    | .sqlite => ["PRAGMA foreign_keys = ON;".toList]
    | .postgres => []
  Text.join ['\n']
    (setting ++ "BEGIN TRANSACTION;".toList :: statements ++ ["COMMIT;".toList])

end Sql

end OutlineTables
