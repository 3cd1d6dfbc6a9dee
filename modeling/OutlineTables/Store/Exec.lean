import OutlineTables.Sql.Statement
import OutlineTables.Store.Basic

/-!
Statements executed on a store. Primary keys stay unique, references have targets, and rows follow
the rows they refer to when those are renamed or deleted. Parents come before children, so one
pass over the tables carries a change to all rows that depend on it.
-/
namespace OutlineTables

/-- Why a store refuses a statement, or refuses to work at all. -/
inductive StoreFault where
  | noTable (table : String)
  | missing (table column : String)
  | notUnique (table : String) (key : List String)
  | noParent
  /-- The text of the statement holds a null character. -/
  | nullCharacter
  | tooDeep
  /-- The statement is not of this dialect. -/
  | unreadable (near : String)
  | noFile
  | notDatabase
deriving DecidableEq, Repr

namespace StoreFault

/-- The deepest expression of a statement. -/
def maxDepth : Nat := 1000

def message : StoreFault → Text
  | noTable t => "no such table: ".toList ++ t.toList
  | missing t c => "NOT NULL constraint failed: ".toList ++ t.toList ++ '.' :: c.toList
  | notUnique t key =>
    "UNIQUE constraint failed: ".toList ++
      Text.join ", ".toList (key.map fun c => t.toList ++ '.' :: c.toList)
  | noParent => "FOREIGN KEY constraint failed".toList
  | nullCharacter => "the query contains a null character".toList
  | tooDeep =>
    "Expression tree is too large (maximum depth ".toList ++ Text.ofNat maxDepth ++ [')']
  | unreadable near => "near ".toList ++ '"' :: near.toList ++ "\": syntax error".toList
  | noFile => "unable to open database file".toList
  | notDatabase => "file is not a database".toList

/-- The kind of error that a fault is. -/
def kind : StoreFault → String
  | missing _ _ | notUnique _ _ | noParent => "IntegrityError"
  | nullCharacter => "ProgrammingError"
  | notDatabase => "DatabaseError"
  | noTable _ | tooDeep | unreadable _ | noFile => "OperationalError"

end StoreFault

namespace ForeignKey

/-- Whether a row whose referring cells are `key` refers to a parent row; null refers to nothing. -/
def meets (k : ForeignKey) (key : List Cell) (parent : Row) : Bool :=
  parent.key k.parentColumns = key ∧ Cell.null ∉ key

/-- Whether the reference of a row has a target. -/
def holds (k : ForeignKey) (s : Store) (child : Row) : Bool :=
  let key := child.key k.columns
  Cell.null ∈ key ∨ (s.rows k.parent).any (k.meets key)

end ForeignKey

namespace Store

/-- What forbids a new row of a table, if anything does. -/
def fault? (s : Store) (r : Relation) (row : Row) : Option StoreFault :=
  match r.table.columns.find? fun c => c.notNull ∧ row.cell c.name = .null with
  | some c => some (.missing r.table.name c.name)
  | none =>
    let key := r.table.keyOf row
    if r.rows.any fun other => r.table.keyOf other = key then
      some (.notUnique r.table.name r.table.primaryKey)
    else if r.table.foreignKeys.all (·.holds s row) then none
    else some .noParent

/-- The relations with a row at the end of one of them. -/
def addRow (name : String) (row : Row) : List Relation → List Relation
  | [] => []
  | r :: rs =>
    if r.table.name = name then { r with rows := r.rows ++ [row] } :: rs
    else r :: addRow name row rs

def insert (s : Store) (name : String) (values : Record) : Except StoreFault Store :=
  match s.relation? name with
  | none => .error (.noTable name)
  | some r =>
    let row := r.table.row values
    match s.fault? r row with
    | some f => .error f
    | none => .ok ⟨addRow name row s.relations⟩

/-- The relations without the rows of `name` that `gone` takes and without all rows that depend on
a removed one; `removed` are those of earlier relations, by table. -/
def removeRows (name : String) (gone : Row → Bool) :
    List (String × List Row) → List Relation → List Relation
  | _, [] => []
  | removed, r :: rs =>
    let drops (row : Row) : Bool :=
      (r.table.name = name && gone row) || r.table.foreignKeys.any fun k =>
        ((removed.lookup k.parent).getD []).any (k.meets (row.key k.columns))
    { r with rows := r.rows.filter (!drops ·) } ::
      removeRows name gone ((r.table.name, r.rows.filter drops) :: removed) rs

def delete (s : Store) (name : String) (condition : Record) : Except StoreFault Store :=
  match s.relation? name with
  | none => .error (.noTable name)
  | some r => .ok ⟨removeRows name (·.agrees (r.table.cells condition)) [] s.relations⟩

/-- The cells that a row takes over from the changed rows it refers to. -/
def inherited (t : Table) (changed : List (String × List (Row × Row))) (row : Row) : Row :=
  t.foreignKeys.flatMap fun k =>
    let key := row.key k.columns
    match ((changed.lookup k.parent).getD []).find? fun (old, _) => k.meets key old with
    | some (_, new) => k.columns.zip (new.key k.parentColumns)
    | none => []

/-- The relations with the rows of `name` changed and all rows that refer to a changed one adapted;
`changed` are the old and new rows of earlier relations, by table. -/
def changeRows (name : String) (change : Row → Row) :
    List (String × List (Row × Row)) → List Relation → Except StoreFault (List Relation)
  | _, [] => .ok []
  | changed, r :: rs => do
    let adapt (row : Row) : Row :=
      (if r.table.name = name then change row else row).withCells (inherited r.table changed row)
    let rows := r.rows.map adapt
    -- Two rows must not take the same key.
    if (rows.map r.table.keyOf).Nodup then
      let rest ← changeRows name change
        ((r.table.name, (r.rows.zip rows).filter fun (old, new) => old ≠ new) :: changed) rs
      .ok ({ r with rows } :: rest)
    else .error (.notUnique r.table.name r.table.primaryKey)

def update (s : Store) (name : String) (values condition : Record) :
    Except StoreFault Store :=
  match s.relation? name with
  | none => .error (.noTable name)
  | some r =>
    let change (row : Row) : Row :=
      if row.agrees (r.table.cells condition) then row.withCells (r.table.cells values) else row
    (changeRows name change [] s.relations).map (⟨·⟩)

def exec (s : Store) : Statement → Except StoreFault Store
  | .insert name values => s.insert name values
  | .update name values condition => s.update name values condition
  | .delete name condition => s.delete name condition
  | .select _ _ _ => .ok s

/-- All statements in order, or the fault of the first that fails. -/
def execAll (s : Store) (statements : List Statement) : Except StoreFault Store :=
  statements.foldlM exec s

end Store

end OutlineTables
