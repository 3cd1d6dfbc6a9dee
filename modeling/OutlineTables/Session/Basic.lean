import OutlineTables.Session.Database
import OutlineTables.Settings.Reader
import OutlineTables.Sql.Definition
import OutlineTables.Sync.Plan

/-!
Work on a tree of files and its databases. Every task reads the settings anew, and a task that
fails leaves the store as it found it.
-/
namespace OutlineTables

/-- A tree of files, the stores in some of the files by their places, and the environment. -/
structure Session where
  disk : Disk := {}
  stores : List (Path × Store) := []
  environment : List (Text × Text) := []

/-- Why a task failed. -/
inductive SessionFault where
  /-- The file of assignments is no text. -/
  | undecodable (fault : Encoding.DecodeFault)
  | settings (fault : SettingsFault)
  | folder (fault : FolderFault)
  | url (fault : UrlFault)
  | schema (fault : LookupFault)
  | sync (fault : SyncFault)

/-- The text of a fault; faults of the store name the kind of their error. -/
def SessionFault.message : SessionFault → Text
  | undecodable f => f.message
  | settings f => f.message
  | folder f => f.message
  | url f => f.message
  | schema f => f.message
  | sync (.store f) => "(sqlite3.".toList ++ f.kind.toList ++ ") ".toList ++ f.message
  | sync f => f.message

/-- A task that may fail; what it did to the session before stays done. -/
abbrev SessionTask (α : Type) := ExceptT SessionFault (StateM Session) α

namespace Session

/-- Sets a variable in its place, or removes it. -/
def setVariable (name : Text) (value : Option Text) (s : Session) : Session :=
  match value with
  | none => { s with environment := s.environment.filter (·.1 ≠ name) }
  | some v =>
    if (s.environment.lookup name).isSome then
      { s with environment := s.environment.map fun (n, w) => (n, if n = name then v else w) }
    else { s with environment := s.environment ++ [(name, v)] }

/-- Writes a file; a store that was in it is lost. -/
def write (p : Path) (bytes : Encoding.Bytes) (s : Session) : Session :=
  let disk := s.disk.write p bytes
  { s with disk, stores := s.stores.filter fun (q, _) => disk.place? p ≠ some q }

def makeFolder (p : Path) (s : Session) : Session :=
  match s.disk.makeFolder p with
  | .ok disk => { s with disk }
  | .error _ => s

/-- Removes a file or folder with the stores in it. -/
def remove (p : Path) (s : Session) : Session :=
  match s.disk.place? p with
  | none => s
  | some place =>
    { s with
      disk := s.disk.clear place
      stores := s.stores.filter fun (q, _) => (place.below? q).isNone }

/-- Moves a file or folder with the stores in it. -/
def rename (p q : Path) (s : Session) : Session :=
  match s.disk.renaming? p q with
  | none => s
  | some (disk, source, target) =>
    let kept := s.stores.filter fun (r, _) =>
      (source.below? r).isNone && (target.below? r).isNone
    let moved := s.stores.filterMap fun (r, store) =>
      (source.below? r).map fun rest => (target ++ rest, store)
    { s with disk := disk.move source target, stores := kept ++ moved }

def settingsFile : Path := [".env".toList]

/-- The text of the file of assignments, if there is one. -/
def settingsText (s : Session) : Except Encoding.DecodeFault (Option Text) :=
  match s.disk.content? settingsFile with
  | none => .ok none
  | some bytes => (Encoding.ofUtf8 bytes).map fun t => some (Encoding.foldLineEnds t)

def lift (fault : ε → SessionFault) : Except ε α → SessionTask α
  | .ok a => return a
  | .error e => throw (fault e)

/-- Changes the disk, or fails. -/
def onDisk (change : Disk → Except FolderFault Disk) : SessionTask Unit := do
  let disk ← lift .folder (change (← get).disk)
  modify fun s => { s with disk }

/-- The settings. Their home is made if nothing is there, even if other settings are wrong. -/
def settings : SessionTask Settings := do
  let s ← get
  let text ← lift .undecodable s.settingsText
  let fields ← lift .settings (Settings.fields s.environment text)
  let home := Settings.homeOf fields
  if (s.disk.place? home).isNone then onDisk (·.makeNewFolder home)
  lift .settings (Settings.ofFields fields)

/-- A database in use. -/
structure Connection where
  settings : Settings
  database : Database
  store : Store

def fault (f : StoreFault) : SessionFault := .sync (.store f)

/-- A file with no more than one byte counts as empty. -/
def isEmptyFile (bytes : Encoding.Bytes) : Bool := Nat.ble bytes.length 1

/-- The store of a database. Its file is made if it is not there. -/
def load : Database → SessionTask Store
  | .memory => return {}
  | .file place => do
    let s ← get
    if s.disk.hasFolder place || !s.disk.hasFolder place.dropLast then throw (fault .noFile)
    match s.stores.lookup place, s.disk.files.lookup place with
    | some store, _ => return store
    | none, some bytes => if isEmptyFile bytes then return {} else throw (fault .notDatabase)
    | none, none => do
      set { s with disk := s.disk.put place [] }
      return {}

/-- A database in use, with the tables as they are. The folder of the file that is used without a
URL is made if it is not there. -/
def connect : SessionTask Connection := do
  let x ← settings
  if x.dialect = .sqlite && (x.databaseUrl.getD []).isEmpty then
    onDisk (·.makeFolder x.dataFolder)
  let url ← lift .settings x.url
  let database ← lift .url (Database.ofUrl url)
  return ⟨x, database, ← load database⟩

/-- The database with another store. -/
def Connection.keep (c : Connection) (store : Store) : SessionTask Connection := do
  match c.database with
  | .memory => pure ()
  | .file place =>
    modify fun s => { s with stores := s.stores.filter (·.1 ≠ place) ++ [(place, store)] }
  return { c with store }

/-- The store of a schema without rows; a file understands one dialect only. -/
def emptyStore (d : Dialect) : SessionTask Store :=
  match d with
  | .sqlite => return Store.ofSchema Rows.schema
  | .postgres => throw (fault (.unreadable "TYPE"))

/-- A database in use whose tables are there, and whether they were made. -/
def initialized : SessionTask (Connection × Bool) := do
  let c ← connect
  if c.store.relations.isEmpty then
    return (← c.keep (← emptyStore c.settings.dialect), true)
  else return (c, false)

/-- Makes the tables unless they are there, and says whether it did. -/
def init : SessionTask Bool := do return (← initialized).2

/-- A database in use whose tables are there. -/
def connected : SessionTask Connection := do return (← initialized).1

/-- Removes all rows. -/
def reset : SessionTask Unit := do
  let c ← connect
  discard (c.keep (← emptyStore c.settings.dialect))

/-- The names of the tables that are there, sorted. -/
def tables : SessionTask (List String) := do
  let c ← connect
  return (c.store.relations.map (·.table.name)).mergeSort fun a b => decide (a ≤ b)

def mapping (x : Settings) : Mapping := ⟨x.options, x.dialect⟩

/-- The outline of a file. -/
def outline (p : Path) : SessionTask Outline := do
  let x ← settings
  lift (SessionFault.sync ∘ .disk) ((mapping x).outline (← get).disk p)

/-- The outline files of some paths. -/
def scan (paths : List Path) (s : Session) : List FileMeta := s.disk.scanAll paths

/-- What a sync would do. -/
def status (paths : List Path) : SessionTask Report := do
  let c ← connected
  return c.store.changes (← get).disk paths

/-- Brings the store in line with the outline files of some paths. -/
def sync (paths : List Path) : SessionTask Report := do
  let c ← connected
  let (r, store) ← lift .sync (c.store.sync (mapping c.settings) (← get).disk paths)
  -- Reached only if every statement went through.
  discard (c.keep store)
  return r

/-- A sync without a database, which is refused. -/
def syncNowhere : SessionTask Report := do
  discard settings
  throw (.sync .noStore)

/-- The statements of a report, as SQL text. -/
def script (r : Report) : SessionTask (List Text) := do
  let m := mapping (← settings)
  lift .sync (r.statements m (← get).disk >>= m.toSql)

/-- The statements of a sync with an empty store. -/
def planFor (paths : List Path) : SessionTask (List Text) := do
  discard settings
  script (({} : Store).changes (← get).disk paths)

def storedFiles : SessionTask (List FileMeta) := do
  return (← connected).store.files

/-- A table with its rows. -/
def relation (table : String) : SessionTask Relation := do
  let c ← connected
  let t ← lift .schema (Rows.schema.table table)
  return (c.store.relation? table).getD ⟨t, []⟩

/-- The tables with their numbers of rows. -/
def counts : SessionTask (List (String × Nat)) := do
  return (← connected).store.relations.map fun r => (r.table.name, r.rows.length)

end Session

end OutlineTables
