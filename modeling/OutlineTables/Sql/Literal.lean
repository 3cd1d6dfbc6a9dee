import OutlineTables.Numeral
import OutlineTables.Schema.Basic
import OutlineTables.Value.Basic

/-!
Values written as SQL literals. A literal never holds a line feed of its own: line feeds in text
are spliced in by a function of the dialect.
-/
namespace OutlineTables

inductive Dialect where
  | sqlite
  | postgres
deriving DecidableEq, Repr

/-- Why a statement has no SQL text. -/
inductive SqlFault where
  | unknown (fault : LookupFault)
  | noColumns (what : String) (table : String)
  | notAllowed (column : Column) (value : Value)
  | notInteger (column : Column) (value : Value)
  | notText (column : Column) (value : Value)
  | tooLong
  | noDialect (name : Text)

def SqlFault.message : SqlFault → Text
  | unknown f => f.message
  | noColumns what table =>
    what.toList ++ ' ' :: table.toList ++ " needs at least one column".toList
  | notAllowed c v =>
    "Value ".toList ++ v.shown ++ " not allowed for column ".toList ++ c.name.toList ++
      ": ".toList ++ Value.shownTuple c.allowed
  | notInteger c v =>
    "Expected integer for column ".toList ++ c.name.toList ++ ", got ".toList ++ v.shown
  | notText c v => "Expected text for column ".toList ++ c.name.toList ++ ", got ".toList ++ v.shown
  | tooLong =>
    ("Exceeds the limit (4300 digits) for integer string conversion; " ++
      "use sys.set_int_max_str_digits() to increase the limit").toList
  | noDialect name => Text.quoted name ++ " is not a valid Dialect".toList

namespace Sql

/-- Text between single quotes, with every single quote in it doubled. -/
def quote (t : Text) : Text := '\'' :: Text.double '\'' t ++ ['\'']

def commaSeparated (ts : List Text) : Text := Text.join [','] ts

def parenthesized (ts : List Text) : Text := '(' :: commaSeparated ts ++ [')']

/-- An integer in at most as many digits as a number is read in. -/
def integer (n : Int) : Except SqlFault Text :=
  if Numeral.maxDigits < (Text.ofNat n.natAbs).length then .error .tooLong else .ok (Text.ofInt n)

end Sql

namespace Dialect

def name : Dialect → String
  | sqlite => "sqlite"
  | postgres => "postgres"

def all : List Dialect := [sqlite, postgres]

def ofName (name : Text) : Except SqlFault Dialect :=
  match all.find? (·.name.toList = name) with
  | some d => .ok d
  | none => .error (.noDialect name)

/-- The call that yields a line feed. -/
def newline : Dialect → Text
  | sqlite => "char(10)".toList
  | postgres => "chr(10)".toList

def boolean (b : Bool) : Dialect → Text
  | sqlite => if b then ['1'] else ['0']
  | postgres => if b then "TRUE".toList else "FALSE".toList

/-- Text as its quoted lines, with a line feed between neighbours. -/
def text (d : Dialect) (t : Text) : Text :=
  Text.join ("||".toList ++ d.newline ++ "||".toList) ((Text.pieces '\n' t).map Sql.quote)

/-- The literal of a value in a column. Truth columns take every value, by its truth. -/
def literal (d : Dialect) (c : Column) : Value → Except SqlFault Text
  | .null => .ok "NULL".toList
  | v =>
    match c.type with
    | .boolean => .ok (d.boolean v.truthy)
    | .enum =>
      match v with
      | .text t => if Text.isIn t c.allowed then .ok (Sql.quote t) else .error (.notAllowed c v)
      | _ => .error (.notAllowed c v)
    | .integer =>
      match v with
      | .int n => Sql.integer n
      | .bool b => Sql.integer (if b then 1 else 0)
      | _ => .error (.notInteger c v)
    | .text =>
      match v with
      | .text t => .ok (d.text t)
      | _ => .error (.notText c v)

end Dialect

end OutlineTables
