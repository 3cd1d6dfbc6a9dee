import OutlineTables.Command.Arguments
import OutlineTables.Layout.Grid
import OutlineTables.Layout.Listing
import OutlineTables.Markup.Basic
import OutlineTables.Session.Basic
import OutlineTables.Text.Sequences

/-!
The commands run on a session, with what they print.
-/
namespace OutlineTables

/-- What a command leaves behind: its exit code, the text that it prints, and a message. -/
structure Outcome where
  exit : Nat := 0
  out : Text := []
  message : Text := []

namespace Outcome

/-- The printed lines without blanks at their ends, and without empty lines at the end. -/
def lines (x : Outcome) : List Text :=
  let ls := (Text.pieces '\n' x.out).map Text.stripEnd
  (ls.reverse.dropWhile (·.isEmpty)).reverse

def print (ls : List Text) : Outcome := { out := ls.flatMap (· ++ ['\n']) }

/-- A failure; its message goes without control sequences. -/
def failure (message : Text) : Outcome := { exit := 1, message := Text.plain message }

/-- Arguments that make no command. -/
def usage : Outcome := { exit := 2 }

end Outcome

/-- A command that may fail with a fault or end early. -/
abbrev CommandTask := ExceptT Outcome (StateM Session) Outcome

namespace Command

def versionText : Text := "0.1.0".toList

def counted (n : Nat) (what : String) : Text := Text.ofNat n ++ ' ' :: what.toList

/-- Changes in one line. -/
def summary (r : Report) : List Text :=
  if r.changes = 0 then ["Everything up to date".toList]
  else
    let parts := [(r.insert, "new"), (r.update, "moved"), (r.delete, "deleted")].filterMap
      fun (files, what) => if files.isEmpty then none else some (counted files.length what)
    ["Synced ".toList ++ Text.ofNat r.changes ++ " files (".toList ++
      Text.join ", ".toList parts ++ [')']]

/-- The columns of the screen. -/
def screen : Nat := 500

def styled (style : String) (t : Text) : Text :=
  '[' :: style.toList ++ ']' :: t ++ '[' :: '/' :: style.toList ++ [']']

/-- A file with the start of its hash; a moved one also with its old path. Tags in paths are taken
as styles. -/
def fileLabel (style : String) (f : FileMeta) : Except MarkupFault Text :=
  let hash := " (".toList ++ f.hash.take 8 ++ [')']
  Markup.shown <|
    if f.isMove then
      styled style (f.diskPath.getD []) ++ hash ++ " (from ".toList ++ f.storePath.getD [] ++ [')']
    else styled style (f.path?.getD []) ++ hash

/-- A branch of files in the order of their paths. -/
def branch (label style : String) (files : List FileMeta) :
    Except MarkupFault (Text × List Text) := do
  let sorted := files.mergeSort fun a b => Text.le (a.path?.getD []) (b.path?.getD [])
  return (label.toList, ← sorted.mapM (fileLabel style))

/-- Changes as a list by kind. -/
def listing (title : String) (r : Report) : Except MarkupFault (List Text) :=
  if r.changes = 0 then .ok [[], "Everything up to date".toList]
  else do
    let kinds := [("New", "green", r.insert), ("Moved", "blue", r.update),
      ("Deleted", "red", r.delete)].filter fun (_, _, files) => !files.isEmpty
    let branches ← kinds.mapM fun (label, style, files) => branch label style files
    return (Layout.Listing.mk title.toList branches).lines screen

def cellText : Cell → Text
  | .null => []
  | .int n => Text.ofInt n
  | .real x => x.toText
  | .text t => t

/-- The rows of a table, drawn; tags in cells are taken as styles. -/
def grid (name : Text) (r : Relation) : Except MarkupFault Layout.Grid := do
  let rows ← r.rows.mapM fun row => row.mapM fun (_, c) => Markup.shown (cellText c)
  return ⟨name, r.table.columnNames.map String.toList, rows⟩

def onFault (lead : Text) (task : SessionTask α) : ExceptT Outcome (StateM Session) α :=
  ExceptT.adapt (fun f : SessionFault => Outcome.failure (lead ++ ": ".toList ++ f.message)) task

/-- What is shown, or a failure. -/
def onMarkup (lead : Text) (shown : Except MarkupFault α) :
    ExceptT Outcome (StateM Session) α :=
  match shown with
  | .ok x => return x
  | .error f => throw (Outcome.failure (lead ++ ": ".toList ++ f.message))

/-- The paths that are given, or else those of the settings. -/
def resolve (lead : Text) (paths : List Path) : ExceptT Outcome (StateM Session) (List Path) := do
  let x ← onFault lead Session.settings
  match paths, x.outlines with
  | [], [] => throw (Outcome.failure "No paths given and no org_dirs configured".toList)
  | [], outlines => return outlines
  | paths, _ => return paths

def question : Text := "This deletes all stored org data. Continue? [y/N]: ".toList

/-- The dialogue before a reset: whether to go on, and what was shown. An end of the input is no
answer. -/
def confirm : List Text → Option Bool × Text
  | [] => (none, question)
  | answer :: more =>
    let shown := question ++ answer ++ ['\n']
    let word := (Text.strip answer).map Char.toLower
    if word = ['y'] ∨ word = "yes".toList then (some true, shown)
    else if word = [] ∨ word = ['n'] ∨ word = "no".toList then (some false, shown)
    else
      let (decision, rest) := confirm more
      (decision, shown ++ "Error: invalid input\n".toList ++ rest)

/-- The lines of an input; nothing follows the last line end. -/
def inputLines (t : Text) : List Text :=
  match (Text.pieces '\n' (Encoding.foldLineEnds t)).reverse with
  | [] :: ls => ls.reverse
  | ls => ls.reverse

def resetAll (shown : Text) : CommandTask := do
  ExceptT.adapt (fun x : Outcome => { x with out := shown })
    (onFault "Error resetting database".toList Session.reset)
  return { out := shown ++ "Database reset\n".toList }

def run (input : Text) : Command → CommandTask
  | version => do
    let x ← ExceptT.adapt (fun _ => { exit := 1 : Outcome }) Session.settings
    return Outcome.print [
      "org-sql version: ".toList ++ versionText,
      "Database backend: ".toList ++ x.dialect.name.toList,
      "Home: ".toList ++ Text.plain x.home.toText]
  | init => do
    if ← onFault "Error initializing database".toList Session.init then
      return Outcome.print [
        "Created ".toList ++ counted Rows.schema.tables.length "tables"]
    else return Outcome.print ["Database already initialized".toList]
  | reset true => resetAll []
  | reset false =>
    match confirm (inputLines input) with
    | (some true, shown) => resetAll shown
    | (some false, shown) => throw { exit := 1, out := shown }
    | (none, shown) => throw { exit := 1, out := shown, message := "Aborted.".toList }
  | dump name => do
    let lead := "Error reading ".toList ++ name
    discard (onFault lead Session.settings)
    match Rows.schema.table (String.ofList name) with
    | .error f => throw (Outcome.failure f.message)
    | .ok t => do
      let r ← onFault lead (Session.relation t.name)
      match grid name r with
      | .ok g => return Outcome.print (g.lines screen)
      -- A table that cannot be drawn ends the program without a message.
      | .error _ => throw { exit := 1 }
  | push paths verbose => do
    let lead := "Error during sync".toList
    discard (onFault lead Session.connected)
    let r ← onFault lead (Session.sync (← resolve lead paths))
    if verbose then return Outcome.print (← onMarkup lead (listing "Sync Results" r))
    else return Outcome.print (summary r)
  | sql paths => do
    let lead := "Error compiling SQL".toList
    let statements ← onFault lead (Session.planFor (← resolve lead paths))
    let x ← onFault lead Session.settings
    return Outcome.print [Text.plain (Sql.transaction x.dialect statements)]
  | status paths => do
    let lead := "Error checking status".toList
    discard (onFault lead Session.connected)
    let r ← onFault lead (Session.status (← resolve lead paths))
    let unchanged := if r.noop.isEmpty then [] else [counted r.noop.length "unchanged"]
    return Outcome.print ((← onMarkup lead (listing "Status" r)) ++ unchanged)

/-- Runs the command that the arguments ask for. -/
def runArguments (arguments : List Text) (input : Text) : StateM Session Outcome := do
  match ofArguments? arguments with
  | none => return Outcome.usage
  | some c =>
    match ← (c.run input).run with
    | .ok x => return x
    | .error x => return x

end Command

end OutlineTables
