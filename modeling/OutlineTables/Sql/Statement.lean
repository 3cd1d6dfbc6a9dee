import OutlineTables.Rows.Record
import OutlineTables.Sql.Literal

/-!
Statements on the tables of a schema, and their SQL text. Columns are written in the order of
the schema, whatever the order in which a statement names them.
-/
namespace OutlineTables

/-- A statement on one table. A condition asks for equal values, and null for null. -/
inductive Statement where
  | insert (table : String) (values : Record)
  | update (table : String) (values condition : Record)
  | delete (table : String) (condition : Record)
  | select (table : String) (columns : List String) (condition : Record)

/-- A writer of the values of columns. -/
abbrev LiteralWriter := Column → Value → Except SqlFault Text

namespace Sql

/-- The fault of an unknown name, as a fault of SQL. -/
def found : Except LookupFault α → Except SqlFault α
  | .ok a => .ok a
  | .error f => .error (.unknown f)

/-- The columns that are named, in the order of the table. -/
def columns (t : Table) (names : List String) : Except SqlFault (List Column) := do
  names.forM fun n => do discard (found (t.column n))
  .ok (t.columns.filter fun c => c.name ∈ names)

/-- The named columns with their values, in the order of the table. -/
def fields (t : Table) (values : Record) : Except SqlFault (List (Column × Value)) := do
  let cs ← columns t (values.map (·.1))
  .ok (cs.map fun c => (c, (values.lookup c.name).getD .null))

def assignment (write : LiteralWriter) (c : Column) (v : Value) : Except SqlFault Text := do
  .ok (c.name.toList ++ '=' :: (← write c v))

/-- One test of a condition; a test for null has a form of its own. -/
def test (write : LiteralWriter) (c : Column) (v : Value) : Except SqlFault Text :=
  match v with
  | .null => .ok (c.name.toList ++ " IS NULL".toList)
  | v => assignment write c v

def condition (write : LiteralWriter) (t : Table) (tests : Record) : Except SqlFault Text :=
  if tests.isEmpty then .ok []
  else do
    let ts ← (← fields t tests).mapM fun (c, v) => test write c v
    .ok (" WHERE ".toList ++ Text.join " AND ".toList ts)

def insert (write : LiteralWriter) (s : Schema) (table : String) (values : Record) :
    Except SqlFault Text := do
  let t ← found (s.table table)
  if values.isEmpty then throw (.noColumns "INSERT into" table)
  let fs ← fields t values
  let literals ← fs.mapM fun (c, v) => write c v
  .ok ("INSERT INTO ".toList ++ t.name.toList ++ ' ' ::
    parenthesized (fs.map (·.1.name.toList)) ++ " VALUES ".toList ++
      parenthesized literals ++ [';'])

def update (write : LiteralWriter) (s : Schema) (table : String) (values tests : Record) :
    Except SqlFault Text := do
  let t ← found (s.table table)
  if values.isEmpty then throw (.noColumns "UPDATE of" table)
  let assignments ← (← fields t values).mapM fun (c, v) => assignment write c v
  let tests ← condition write t tests
  .ok ("UPDATE ".toList ++ t.name.toList ++ " SET ".toList ++ commaSeparated assignments ++
    tests ++ [';'])

def delete (write : LiteralWriter) (s : Schema) (table : String) (tests : Record) :
    Except SqlFault Text := do
  let t ← found (s.table table)
  let tests ← condition write t tests
  .ok ("DELETE FROM ".toList ++ t.name.toList ++ tests ++ [';'])

/-- Without columns, a selection takes all of them. -/
def select (write : LiteralWriter) (s : Schema) (table : String) (names : List String)
    (tests : Record) : Except SqlFault Text := do
  let t ← found (s.table table)
  let selected ←
    if names.isEmpty then .ok ['*']
    else do .ok (commaSeparated ((← columns t names).map (·.name.toList)))
  let tests ← condition write t tests
  .ok ("SELECT ".toList ++ selected ++ " FROM ".toList ++ t.name.toList ++ tests ++ [';'])

end Sql

/-- The SQL text of a statement, with values as `write` puts them. -/
def Statement.render (write : LiteralWriter) (s : Schema) : Statement → Except SqlFault Text
  | insert table values => Sql.insert write s table values
  | update table values condition => Sql.update write s table values condition
  | delete table condition => Sql.delete write s table condition
  | select table columns condition => Sql.select write s table columns condition

/-- The SQL text of a statement in a dialect. -/
def Statement.toSql (d : Dialect) (s : Schema) (x : Statement) : Except SqlFault Text :=
  x.render d.literal s

/-- The insertions of rows, parent tables first. -/
def Statement.inserts (s : Schema) (rows : List (String × List Record)) : List Statement :=
  s.tables.flatMap fun t => ((rows.lookup t.name).getD []).map (Statement.insert t.name ·)

/-- The SQL text of the insertions of rows. Every table is looked up before any row is written. -/
def Sql.inserts (write : LiteralWriter) (s : Schema) (rows : List (String × List Record)) :
    Except SqlFault (List Text) := do
  rows.forM fun (table, _) => do discard (found (s.table table))
  (Statement.inserts s rows).mapM (·.render write s)

/-- Values as a dialect given by name writes them. The name matters only once there is a value. -/
def LiteralWriter.ofName (name : Text) : LiteralWriter := fun c v => do
  (← Dialect.ofName name).literal c v

end OutlineTables
