import OutlineTables.Text.Basic

/-!
Relative paths as lists of names.
-/
namespace OutlineTables

/-- The names on the way to a file or folder. -/
abbrev Path := List Text

namespace Path

/-- Empty names and single dots are left out. -/
def ofText (t : Text) : Path := (Text.pieces '/' t).filter fun n => n ≠ [] ∧ n ≠ ['.']

def toText (p : Path) : Text := if p.isEmpty then ['.'] else Text.join ['/'] p

/-- The name that leads from a folder to the one that it is in. -/
def up : Text := ['.', '.']

/-- Whether the path leads to the working folder or to one that it is in. -/
def isAbove (p : Path) : Bool := p.all (· = up)

/-- One name further; a double dot takes back the last name unless there is none. -/
def step (p : Path) (name : Text) : Path :=
  if name = up ∧ !p.isAbove then p.dropLast else p ++ [name]

/-- The path with every double dot and the name before it left out. -/
def resolve (p : Path) : Path := p.foldl step []

/-- The folders on the way to a path, without the outermost. -/
def parents (p : Path) : List Path := (List.range p.length).tail.map p.take

/-- The rest of a path below a folder. -/
def below? : Path → Path → Option Path
  | [], p => if p.head? = some up then none else some p
  | _ :: _, [] => none
  | n :: ns, m :: ms => if n = m then below? ns ms else none

/-- Paths are compared name by name. -/
def le : Path → Path → Bool
  | [], _ => true
  | _ :: _, [] => false
  | n :: ns, m :: ms => if n = m then le ns ms else n.le m

end Path

end OutlineTables
