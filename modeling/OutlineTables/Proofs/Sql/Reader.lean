import OutlineTables.Rows.Schema
import OutlineTables.Sql.Statement

/-!
A reader of SQL. Text is cut into tokens, and tokens are read as a statement on the tables of a
schema. Inside quotes, a doubled quote is one quote.
-/
namespace OutlineTables

namespace Sql

/-- Words hold names, key words and digits. -/
inductive Token where
  | word (t : Text)
  | text (t : Text)
  | mark (c : Char)
deriving DecidableEq

namespace Token

def key (s : String) : Token := word s.toList

end Token

/-- What the lexer is in the middle of: nothing, a word, a quoted text, or a quoted text behind a
quote that ends it unless another quote follows. -/
inductive Mode where
  | between
  | word (t : Text)
  | quoted (t : Text)
  | closing (t : Text)

def isWordMark (c : Char) : Bool := c.isAlphanum || c = '_'

/-- What a character begins behind a finished token. -/
def start (c : Char) : List Token × Mode :=
  if c = '\'' then ([], .quoted [])
  else if isWordMark c then ([], .word [c])
  else if c.isWhitespace then ([], .between)
  else ([.mark c], .between)

def lexFrom : Mode → Text → Option (List Token)
  | .between, [] => some []
  | .word t, [] => some [.word t]
  | .quoted _, [] => none
  | .closing t, [] => some [.text t]
  | .between, c :: cs => (lexFrom (start c).2 cs).map ((start c).1 ++ ·)
  | .word t, c :: cs =>
    if isWordMark c then lexFrom (.word (t ++ [c])) cs
    else (lexFrom (start c).2 cs).map (.word t :: (start c).1 ++ ·)
  | .quoted t, c :: cs =>
    if c = '\'' then lexFrom (.closing t) cs else lexFrom (.quoted (t ++ [c])) cs
  | .closing t, c :: cs =>
    if c = '\'' then lexFrom (.quoted (t ++ ['\''])) cs
    else (lexFrom (start c).2 cs).map (.text t :: (start c).1 ++ ·)

/-- The tokens of a text, unless a quoted text does not end. -/
def lex (t : Text) : Option (List Token) := lexFrom .between t

/-- Texts and line feeds with bars between neighbours, as one text. -/
def concat? (d : Dialect) : List Token → Option Text
  | [.text t] => some t
  | .text t :: .mark '|' :: .mark '|' :: ts => (concat? d ts).map (t ++ ·)
  | [.word f, .mark '(', .word n, .mark ')'] =>
    if f ++ '(' :: n ++ [')'] = d.newline then some ['\n'] else none
  | .word f :: .mark '(' :: .word n :: .mark ')' :: .mark '|' :: .mark '|' :: ts =>
    if f ++ '(' :: n ++ [')'] = d.newline then (concat? d ts).map ('\n' :: ·) else none
  | _ => none

/-- A number in decimal digits. -/
def digits? (t : Text) : Option Nat :=
  if t ≠ [] ∧ t.all Char.isDigit then some (Nat.ofDigitChars 10 t 0) else none

def integer? : List Token → Option Int
  | [.word t] => (digits? t).map (·)
  | [.mark '-', .word t] => (digits? t).map (-·)
  | _ => none

/-- The value of a column that a literal denotes. -/
def value? (d : Dialect) (c : Column) (ts : List Token) : Option Value :=
  if ts = [.key "NULL"] then some .null
  else
    match c.type with
    | .boolean =>
      if ts = [.word (d.boolean true)] then some (.bool true)
      else if ts = [.word (d.boolean false)] then some (.bool false)
      else none
    | .integer => (integer? ts).map .int
    | .enum | .text => (concat? d ts).map .text

def tableOf? (s : Schema) (name : Text) : Option Table :=
  s.tables.find? (·.name.toList = name)

def columnOf? (t : Table) (name : Text) : Option Column :=
  t.columns.find? (·.name.toList = name)

def column? (t : Table) : List Token → Option Column
  | [.word n] => columnOf? t n
  | _ => none

/-- A column with the value that it is given. -/
def assignment? (d : Dialect) (t : Table) : List Token → Option (String × Value)
  | .word n :: .mark '=' :: ts => do
    let c ← columnOf? t n
    some (c.name, ← value? d c ts)
  | _ => none

/-- A test for a value, or for null. Equality with null is no such test. -/
def test? (d : Dialect) (t : Table) : List Token → Option (String × Value)
  | [.word n, is, null] =>
    if is = .key "IS" ∧ null = .key "NULL" then (columnOf? t n).map fun c => (c.name, .null)
    else if null = .key "NULL" then none
    else assignment? d t [.word n, is, null]
  | ts => assignment? d t ts

def condition? (d : Dialect) (t : Table) : List Token → Option Record
  | [] => some []
  | where' :: ts =>
    if where' = .key "WHERE" then (ts.splitOn (.key "AND")).mapM (test? d t) else none

def insert? (d : Dialect) (s : Schema) : List Token → Option Statement
  | into :: .word name :: .mark '(' :: ts => do
    let t ← tableOf? s name
    let columns ← ((ts.takeWhile (· ≠ .mark ')')).splitOn (.mark ',')).mapM (column? t)
    match ts.dropWhile (· ≠ .mark ')') with
    | _ :: values :: .mark '(' :: body =>
      let literals := body.dropLast.splitOn (.mark ',')
      if into = .key "INTO" ∧ values = .key "VALUES" ∧ body.getLast? = some (.mark ')') ∧
          literals.length = columns.length then
        let values ← (columns.zip literals).mapM fun (c, ts) => (value? d c ts).map ((c.name, ·))
        some (.insert t.name values)
      else none
    | _ => none
  | _ => none

def update? (d : Dialect) (s : Schema) : List Token → Option Statement
  | .word name :: set :: ts => do
    let t ← tableOf? s name
    let values ← ((ts.takeWhile (· ≠ .key "WHERE")).splitOn (.mark ',')).mapM (assignment? d t)
    let condition ← condition? d t (ts.dropWhile (· ≠ .key "WHERE"))
    if set = .key "SET" then some (.update t.name values condition) else none
  | _ => none

def delete? (d : Dialect) (s : Schema) : List Token → Option Statement
  | from' :: .word name :: ts => do
    let t ← tableOf? s name
    let condition ← condition? d t ts
    if from' = .key "FROM" then some (.delete t.name condition) else none
  | _ => none

/-- The names of columns; a star stands for none. -/
def selected? (t : Table) (ts : List Token) : Option (List String) :=
  if ts = [.mark '*'] then some []
  else (ts.splitOn (.mark ',')).mapM fun ts => (column? t ts).map (·.name)

def select? (d : Dialect) (s : Schema) (ts : List Token) : Option Statement :=
  match ts.dropWhile (· ≠ .key "FROM") with
  | _ :: .word name :: rest => do
    let t ← tableOf? s name
    let columns ← selected? t (ts.takeWhile (· ≠ .key "FROM"))
    let condition ← condition? d t rest
    some (.select t.name columns condition)
  | _ => none

/-- The statement that tokens write in front of a semicolon. -/
def statement? (d : Dialect) (s : Schema) (ts : List Token) : Option Statement :=
  if ts.getLast? = some (.mark ';') then
    match ts.dropLast with
    | [] => none
    | first :: rest =>
      if first = .key "INSERT" then insert? d s rest
      else if first = .key "UPDATE" then update? d s rest
      else if first = .key "DELETE" then delete? d s rest
      else if first = .key "SELECT" then select? d s rest
      else none
  else none

/-- The statement that a text writes. -/
def read? (d : Dialect) (s : Schema) (t : Text) : Option Statement :=
  (lex t).bind (statement? d s)

end Sql

/-- What a literal of a value says about it: a truth column keeps the truth of the value. -/
def Column.canonical (c : Column) (v : Value) : Value :=
  match v, c.type with
  | .null, _ => .null
  | v, .boolean => .bool v.truthy
  | .bool b, .integer => .int (if b then 1 else 0)
  | v, _ => v

namespace Table

/-- The values of a record in the order of the columns. -/
def canonical (t : Table) (values : Record) : Record :=
  (t.columns.filter fun c => c.name ∈ values.map (·.1)).map fun c =>
    (c.name, c.canonical ((values.lookup c.name).getD .null))

end Table

/-- A statement with its columns in the order of the schema. -/
def Statement.canonical (s : Schema) (x : Statement) : Statement :=
  let table (name : String) : Table := (s.tables.find? (·.name = name)).getD ⟨name, "", [], [], []⟩
  match x with
  | .insert name values => .insert name ((table name).canonical values)
  | .update name values condition =>
    .update name ((table name).canonical values) ((table name).canonical condition)
  | .delete name condition => .delete name ((table name).canonical condition)
  | .select name columns condition =>
    .select name (((table name).columns.filter (·.name ∈ columns)).map (·.name))
      ((table name).canonical condition)

end OutlineTables
