import OutlineTables.Disk.Path
import OutlineTables.Numeral
import OutlineTables.Text.WordChar

/-!
The database that a URL names. A URL has the name of a dialect with its driver, then optionally a
user with a password, a host with a socket number, the name of a database and a query. The rows of
a session are kept in a file or in the memory of one task; other URLs are refused.
-/
namespace OutlineTables

/-- Where rows are kept. -/
inductive Database where
  /-- In memory, for as long as a task lasts. -/
  | memory
  | file (path : Path)
deriving DecidableEq, Repr

/-- Why a URL names no database that can be used. -/
inductive UrlFault where
  | unreadable
  | socket (fault : NumeralFault)
  | unknownDialect (name : Text)
  /-- A file has no user and no host. -/
  | notLocal (url : Text)
  | noDriver (module : String)
  /-- The driver works while the caller waits. -/
  | waiting (driver : String)
deriving DecidableEq, Repr

namespace UrlFault

def message : UrlFault → Text
  | unreadable => "Could not parse SQLAlchemy URL from given URL string".toList
  | socket f => f.message
  | unknownDialect name =>
    "Can't load plugin: sqlalchemy.dialects:".toList ++
      name.map fun c => if c = '+' then '.' else c
  | notLocal url =>
    "Invalid SQLite URL: ".toList ++ url ++
      ("\nValid SQLite URL forms are sqlite:///:memory: or " ++
        "sqlite:////absolute/path/to/file.db").toList
  | noDriver m => "No module named '".toList ++ m.toList ++ ['\'']
  | waiting d =>
    "The asyncio extension requires an async driver to be used. The loaded '".toList ++
      d.toList ++ "' is not async.".toList

/-- The kind of error that a fault is. -/
def kind : UrlFault → String
  | unreadable | notLocal _ => "ArgumentError"
  | socket _ => "ValueError"
  | unknownDialect _ => "NoSuchModuleError"
  | noDriver _ => "ModuleNotFoundError"
  | waiting _ => "InvalidRequestError"

end UrlFault

/-- The parts of a URL. A part that is there may be empty. -/
structure Url where
  dialect : Text
  user : Option Text
  password : Option Text
  host : Option Text
  socket : Option Text
  database : Option Text

namespace Url

/-- What stands before and after the last `sep`. -/
def cutAtLast? (sep : Char) (t : Text) : Option (Text × Text) :=
  match (t.reverse.dropWhile (· ≠ sep)) with
  | [] => none
  | _ :: before => some (before.reverse, t.drop (before.length + 1))

/-- User and password in front of an at sign, and what follows it. A password goes up to the first
at sign, a user without one up to the last before a colon or slash. -/
def account (t : Text) : Option Text × Option Text × Text :=
  let plain (c : Char) : Bool := c ≠ ':' && c ≠ '/'
  let user := t.takeWhile plain
  let byUser : Option Text × Option Text × Text :=
    match cutAtLast? '@' user with
    | some (before, _) => (some before, none, t.drop (before.length + 1))
    | none => (none, none, t)
  match t.dropWhile plain with
  | ':' :: rest =>
    match rest.dropWhile (· ≠ '@') with
    | _ :: after => (some user, some (rest.takeWhile (· ≠ '@')), after)
    | [] => byUser
  | _ => byUser

/-- A host, in square brackets if it holds colons, and what follows it. -/
def hostPart (t : Text) : Option Text × Text :=
  let plain (c : Char) : Bool := c ≠ '/' && c ≠ ':' && c ≠ '?'
  let bracketed : Option (Text × Text) :=
    match t with
    | '[' :: rest =>
      match cutAtLast? ']' (rest.takeWhile fun c => c ≠ '/' && c ≠ '?') with
      | some (c :: cs, _) => some (c :: cs, rest.drop (cs.length + 2))
      | _ => none
    | _ => none
  match bracketed with
  | some (host, rest) => (some host, rest)
  | none =>
    match t.takeWhile plain with
    | [] => (none, t)
    | host => (some host, t.dropWhile plain)

/-- What follows a mark up to one of the characters `ends`, and what is left. -/
def partAfter (mark : Char) (ends : Char → Bool) : Text → Option Text × Text
  | [] => (none, [])
  | c :: t =>
    if c = mark then (some (t.takeWhile (!ends ·)), t.dropWhile (!ends ·)) else (none, c :: t)

def ofText? (t : Text) : Option Url :=
  let inName (c : Char) : Bool := Text.isWordChar c || c = '+'
  match t.takeWhile inName, Text.after? "://".toList (t.dropWhile inName) with
  | [], _ => none
  | _, none => none
  | dialect, some rest =>
    let (user, password, rest) := account rest
    let (host, rest) := hostPart rest
    let (socket, rest) := partAfter ':' (fun c => c = '/' || c = '?') rest
    let (database, _) := partAfter '/' (fun c => c = '?') rest
    some { dialect, user, password, host, socket, database }

/-- Whether a part is there and holds something. -/
def given (part : Option Text) : Bool := !(part.getD []).isEmpty

end Url

namespace Database

/-- Dialects with drivers that are not there. -/
def missingDrivers : List (String × String) :=
  [("postgresql", "psycopg2"), ("postgresql+psycopg2", "psycopg2"),
    ("postgresql+psycopg", "psycopg"), ("postgresql+asyncpg", "asyncpg"), ("mysql", "MySQLdb"),
    ("mysql+mysqldb", "MySQLdb"), ("mysql+pymysql", "pymysql"), ("mysql+aiomysql", "aiomysql"),
    ("mysql+asyncmy", "asyncmy"), ("mariadb", "MySQLdb"), ("oracle", "cx_Oracle"),
    ("mssql", "pyodbc"), ("mssql+pyodbc", "pyodbc")]

/-- The names of the dialect of files; the first has the driver that does not wait. -/
def fileDialects : List String := ["sqlite+aiosqlite", "sqlite", "sqlite+pysqlite"]

/-- The file of a database; without a name it is kept in memory. -/
def ofName (name : Option Text) : Database :=
  let name := name.getD []
  if name.isEmpty || name = ":memory:".toList then memory else file (Path.ofText name).resolve

/-- The database of a URL. The query does not matter. -/
def ofUrl (t : Text) : Except UrlFault Database := do
  match Url.ofText? t with
  | none => throw .unreadable
  | some u => do
    match u.socket with
    | none | some [] => pure ()
    | some p => discard ((Numeral.read p).mapError .socket)
    let dialect := String.ofList u.dialect
    match missingDrivers.lookup dialect with
    | some driver => throw (.noDriver driver)
    | none =>
      if ¬ dialect ∈ fileDialects then throw (.unknownDialect u.dialect)
      if Url.given u.user || Url.given u.password || Url.given u.host || Url.given u.socket then
        throw (.notLocal t)
      if fileDialects.head? ≠ some dialect then throw (.waiting "pysqlite")
      return ofName u.database

end Database

end OutlineTables
