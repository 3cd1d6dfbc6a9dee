import OutlineTables.Command.Run
import OutlineTables.Store.Data

/-!
The command line. The files that a command works on are read into a session, the command runs on
it, and its store is written back. All paths are relative to the working directory.
-/
namespace OutlineTables.CommandLine

/-- The variables that settings are read from. -/
def variableNames : List String :=
  let options :=
    match Options.default.toValue with
    | .object fields => fields.map fun (name, _) => "mapper__" ++ name
    | _ => []
  (["home", "org_dirs", "database_backend", "database_url", "log_level", "mapper"] ++ options).map
    fun name => "ORG_SQL_" ++ name.toUpper

def environment : IO (List (Text × Text)) := do
  let found ← variableNames.mapM fun name => do
    return (← IO.getEnv name).map fun value => (name.toList, value.toList)
  return found.filterMap id

/-- The session with the contents of a file, if there is one. -/
def readFile (p : Path) (s : Session) : IO Session := do
  try
    return s.write p (← IO.FS.readBinFile (String.ofList p.toText)).toList
  catch _ => return s

/-- The session with a file or with everything in a folder; `here` is the working directory. -/
partial def readTree (p : Path) (s : Session) : IO Session := do
  let place := (← IO.currentDir) / String.ofList p.toText
  if ← place.isDir then
    let mut s := s.makeFolder p
    for entry in ← place.readDir do
      s ← readTree (p ++ [entry.fileName.toList]) s
    return s
  else readFile p s

/-- The settings, unless they cannot be read. -/
def settings? (s : Session) : Option Settings := (Session.settings.run.run s).1.toOption

/-- The paths that a command works on, given or by the settings. -/
def paths (s : Session) : Option Command → List Path
  | some (.push [] _) | some (.sql []) | some (.status []) =>
    ((settings? s).map (·.outlines)).getD []
  | some (.push ps _) | some (.sql ps) | some (.status ps) => ps
  | _ => []

/-- The file of the database, if the settings name one. -/
def database? (s : Session) : Option Path := do
  let url ← (← settings? s).url.toOption
  match (Database.ofUrl url).toOption with
  | some (.file place) => some place
  | _ => none

/-- The session with a folder, if it is there. -/
def readFolder (p : Path) (s : Session) : IO Session := do
  let place := (← IO.currentDir) / String.ofList p.toText
  if ← place.isDir then return s.makeFolder p else return s

/-- The session with the store in a file, or with its contents if they are no store. -/
def readStore (p : Path) (s : Session) : IO Session := do
  let s ← readFile p (← readFolder p.dropLast s)
  match s.disk.content? p with
  | none => return s
  | some bytes =>
    match (Encoding.ofUtf8? bytes).bind Json.parse? |>.bind Store.read? with
    | some store => return { s with stores := [(p, store)] }
    | none => return s

/-- Writes the contents of the file of the database. -/
def writeStore (p : Path) (s : Session) : IO Unit := do
  let name := String.ofList p.toText
  match s.stores.lookup p, s.disk.content? p with
  | some store, _ =>
    IO.FS.createDirAll (String.ofList (Path.toText p.dropLast))
    IO.FS.writeFile name (String.ofList (Json.render store.toValue))
  | none, some bytes => IO.FS.writeBinFile name (ByteArray.mk bytes.toArray)
  | none, none => return ()

def run (arguments : List Text) : IO Outcome := do
  let command := Command.ofArguments? arguments
  let s ← readFile Session.settingsFile { environment := ← environment }
  let s ← match settings? s with
    | some x => readFolder x.home s
    | none => pure s
  let s ← (paths s command).foldlM (fun s p => readTree p s) s
  let database := database? s
  let s ← match database with
    | some p => readStore p s
    | none => pure s
  let input ← match command with
    | some (.reset false) => do pure (← (← IO.getStdin).getLine).toList
    | _ => pure []
  let (outcome, s) := (Command.runArguments arguments input).run s
  match database with
  | some p => writeStore p s
  | none => pure ()
  return outcome

end OutlineTables.CommandLine

def main (arguments : List String) : IO UInt32 := do
  let outcome ← OutlineTables.CommandLine.run (arguments.map String.toList)
  for line in outcome.lines do
    IO.println (String.ofList line)
  unless outcome.message.isEmpty do
    IO.eprintln (String.ofList outcome.message)
  return UInt32.ofNat outcome.exit
