import OutlineTables.Disk.Path

/-!
The commands and their arguments. Options may stand between the arguments of a command, up to a
double dash.
-/
namespace OutlineTables

inductive Command where
  | version
  | init
  | reset (force : Bool)
  | dump (table : Text)
  | push (paths : List Path) (verbose : Bool)
  | sql (paths : List Path)
  | status (paths : List Path)
deriving DecidableEq, Repr

namespace Command

/-- The switches that a command knows, by their long and short names. -/
structure Switches where
  long : List String
  short : List (Char × String)

/-- Switches that are set, and the other arguments. -/
structure Arguments where
  switches : List String := []
  others : List Text := []

namespace Switches

/-- The switches that an argument sets; none if one is unknown. An argument that sets no switch is
`some []`. -/
def read? (s : Switches) : Text → Option (List String)
  | '-' :: '-' :: name => if String.ofList name ∈ s.long then some [String.ofList name] else none
  | '-' :: c :: cs => (c :: cs).mapM fun c => s.short.lookup c
  | _ => some []

/-- The arguments of a command; none if a switch is unknown. -/
def split? (s : Switches) : List Text → Option Arguments
  | [] => some {}
  | t :: ts =>
    if t = ['-', '-'] then some { others := ts }
    else
      match s.read? t, s.split? ts with
      | some [], some rest => some { rest with others := t :: rest.others }
      | some set, some rest => some { rest with switches := set ++ rest.switches }
      | _, _ => none

end Switches

def versionSwitches : Switches := ⟨["version"], [('v', "version")]⟩

def noSwitches : Switches := ⟨[], []⟩

/-- A command by its name, with its arguments. -/
def ofName? (name : String) (arguments : List Text) : Option Command :=
  match name with
  | "init" => do
    let a ← noSwitches.split? arguments
    if a.others.isEmpty then some init else none
  | "reset" => do
    let a ← (Switches.mk ["force"] [('f', "force")]).split? arguments
    if a.others.isEmpty then some (reset ("force" ∈ a.switches)) else none
  | "dump" => do
    match (← noSwitches.split? arguments).others with
    | [table] => some (dump table)
    | _ => none
  | "push" => do
    let a ← (Switches.mk ["verbose"] []).split? arguments
    some (push (a.others.map Path.ofText) ("verbose" ∈ a.switches))
  | "sql" => do some (sql ((← noSwitches.split? arguments).others.map Path.ofText))
  | "status" => do some (status ((← noSwitches.split? arguments).others.map Path.ofText))
  | _ => none

/-- Whether the switches that begin the arguments ask for the version; they end at a double dash
or at another argument. None if a switch is unknown. -/
def leading? : List Text → Option Bool
  | [] => some false
  | t :: ts =>
    if t = ['-', '-'] then some false
    else
      match versionSwitches.read? t with
      | none => none
      | some [] => some false
      | some _ => (leading? ts).map fun _ => true

/-- The command whose name comes first. A switch in its place is read as one. -/
def ofNamed? : List Text → Option Command
  | [] => none
  | t :: ts =>
    if t.head? = some '-' then if leading? (t :: ts) = some true then some version else none
    else ofName? (String.ofList t) ts

/-- The command that arguments ask for; the version goes before any other. -/
def ofArguments? : List Text → Option Command
  | [] => none
  | t :: ts =>
    if t = ['-', '-'] then ofNamed? ts
    else
      match leading? (t :: ts) with
      | none => none
      | some true => some version
      | some false => ofNamed? (t :: ts)

end Command

end OutlineTables
