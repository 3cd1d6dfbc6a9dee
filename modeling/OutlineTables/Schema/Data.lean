import OutlineTables.Schema.Basic
import OutlineTables.Value.Coerce

/-!
Schemas given as untyped values. What is wrong with a schema is said of its innermost parts; a
part is checked as a whole once its own parts are right.
-/
namespace OutlineTables

/-- A rule of schemas that a description breaks. -/
inductive SchemaFault where
  | noValues (column : String)
  | keyColumn (column table : String)
  | foreignKeyColumn (column table : String)
  | undeclaredParent (table parent : String)
deriving DecidableEq, Repr

def SchemaFault.message : SchemaFault → Text
  | noValues c => "enum column ".toList ++ c.toList ++ " must declare allowed values".toList
  | keyColumn c t =>
    "primary key column ".toList ++ c.toList ++ " not in table ".toList ++ t.toList
  | foreignKeyColumn c t =>
    "foreign key column ".toList ++ c.toList ++ " not in table ".toList ++ t.toList
  | undeclaredParent t p =>
    "table ".toList ++ t.toList ++ " references ".toList ++ p.toList ++
      " before it is declared".toList

/-- A checked value, or all rules that were broken; a value of the wrong kind breaks none. -/
abbrev Checked (α : Type) := Except (List SchemaFault) α

namespace Checked

/-- Both values, or the faults of both. -/
def both (f : α → β → γ) : Checked α → Checked β → Checked γ
  | .ok a, .ok b => .ok (f a b)
  | .ok _, .error fs => .error fs
  | .error fs, .ok _ => .error fs
  | .error fs, .error gs => .error (fs ++ gs)

def ofOption : Option α → Checked α
  | some a => .ok a
  | none => .error []

/-- All values, or the faults of all. -/
def all (f : Value → Checked α) : List Value → Checked (List α)
  | [] => .ok []
  | v :: vs => both (· :: ·) (f v) (all f vs)

def items (f : Value → Checked α) (v : Value) : Checked (List α) :=
  match v.asList? with
  | some vs => all f vs
  | none => .error []

/-- A required field. -/
def field (v : Value) (key : String) (f : Value → Checked α) : Checked α :=
  match v.field? key with
  | some w => f w
  | none => .error []

/-- A field with a default. -/
def fieldD (v : Value) (key : String) (absent : α) (f : Value → Checked α) : Checked α :=
  match v.field? key with
  | some w => f w
  | none => .ok absent

def name (v : Value) : Checked String := ofOption v.asName?

def names (v : Value) : Checked (List String) := items name v

/-- The value, unless it breaks a rule. -/
def require (rule : α → Option SchemaFault) (c : Checked α) : Checked α :=
  match c with
  | .ok a =>
    match rule a with
    | none => .ok a
    | some f => .error [f]
  | .error fs => .error fs

end Checked

namespace Column

/-- An enumeration has values. -/
def rule (c : Column) : Option SchemaFault :=
  if c.type = .enum ∧ c.allowed = [] then some (.noValues c.name) else none

def type? (v : Value) : Option ColumnType := do
  let name ← v.asName?
  ColumnType.all.find? (·.name = name)

def ofValue (v : Value) : Checked Column :=
  if v.isObject then
    let build := fun (name, type) (description, notNull) allowed =>
      (⟨name, type, description, notNull, allowed⟩ : Column)
    Checked.require rule <|
      Checked.both (fun f allowed => f allowed)
        (Checked.both build
          (Checked.both Prod.mk (Checked.field v "name" Checked.name)
            (Checked.field v "type" fun w => Checked.ofOption (type? w)))
          (Checked.both Prod.mk (Checked.fieldD v "description" "" Checked.name)
            (Checked.fieldD v "not_null" false fun w => Checked.ofOption w.asBool?)))
        (Checked.fieldD v "allowed" [] (Checked.items fun w => Checked.ofOption w.asText?))
  else .error []

def toValue (c : Column) : Value :=
  .object [("name", .str c.name), ("type", .str c.type.name),
    ("description", .str c.description), ("not_null", .bool c.notNull),
    ("allowed", .list (c.allowed.map .text))]

end Column

namespace ForeignKey

def ofValue (v : Value) : Checked ForeignKey :=
  if v.isObject then
    let build := fun (columns, parent) parentColumns (onDelete, onUpdate) =>
      (⟨columns, parent, parentColumns, onDelete, onUpdate⟩ : ForeignKey)
    Checked.both (fun f actions => f actions)
      (Checked.both build
        (Checked.both Prod.mk (Checked.field v "columns" Checked.names)
          (Checked.field v "parent" Checked.name))
        (Checked.field v "parent_columns" Checked.names))
      (Checked.both Prod.mk (Checked.fieldD v "on_delete" "CASCADE" Checked.name)
        (Checked.fieldD v "on_update" "CASCADE" Checked.name))
  else .error []

def toValue (k : ForeignKey) : Value :=
  .object [("columns", .list (k.columns.map .str)), ("parent", .str k.parent),
    ("parent_columns", .list (k.parentColumns.map .str)), ("on_delete", .str k.onDelete),
    ("on_update", .str k.onUpdate)]

end ForeignKey

namespace Table

/-- Keys name columns of the table. -/
def rule (t : Table) : Option SchemaFault :=
  match t.primaryKey.find? (· ∉ t.columnNames) with
  | some c => some (.keyColumn c t.name)
  | none =>
    ((t.foreignKeys.flatMap (·.columns)).find? (· ∉ t.columnNames)).map
      (.foreignKeyColumn · t.name)

def ofValue (v : Value) : Checked Table :=
  if v.isObject then
    let build := fun (name, description) columns (primaryKey, foreignKeys) =>
      (⟨name, description, columns, primaryKey, foreignKeys⟩ : Table)
    Checked.require rule <|
      Checked.both (fun f keys => f keys)
        (Checked.both build
          (Checked.both Prod.mk (Checked.field v "name" Checked.name)
            (Checked.fieldD v "description" "" Checked.name))
          (Checked.field v "columns" (Checked.items Column.ofValue)))
        (Checked.both Prod.mk (Checked.field v "primary_key" Checked.names)
          (Checked.fieldD v "foreign_keys" [] (Checked.items ForeignKey.ofValue)))
  else .error []

def toValue (t : Table) : Value :=
  .object [("name", .str t.name), ("description", .str t.description),
    ("columns", .list (t.columns.map (·.toValue))),
    ("primary_key", .list (t.primaryKey.map .str)),
    ("foreign_keys", .list (t.foreignKeys.map (·.toValue)))]

end Table

namespace Schema

/-- The first reference to a table that is not among those declared before. -/
def referenceFault? (seen : List String) : List Table → Option SchemaFault
  | [] => none
  | t :: ts =>
    match t.foreignKeys.find? (·.parent ∉ seen) with
    | some k => some (.undeclaredParent t.name k.parent)
    | none => referenceFault? (t.name :: seen) ts

/-- Foreign keys refer to tables declared before. -/
def rule (s : Schema) : Option SchemaFault := referenceFault? [] s.tables

def ofValue (v : Value) : Checked Schema :=
  if v.isObject then
    Checked.require rule <|
      (Checked.field v "tables" (Checked.items Table.ofValue)).map (⟨·⟩)
  else .error []

def toValue (s : Schema) : Value := .object [("tables", .list (s.tables.map (·.toValue)))]

end Schema

end OutlineTables
