import OutlineTables.Text.Basic

/-!
Text with tags in square brackets, such as `[bold]` and `[/bold]`, cut into text and tags.
-/
namespace OutlineTables.Markup

/-- The inside of a pair of brackets; what follows an equals sign is a parameter. -/
structure Tag where
  name : Text
  parameters : Option Text := none
deriving DecidableEq, Repr

namespace Tag

def ofInside (t : Text) : Tag :=
  let (name, parameters) := Text.cutAt '=' t
  ⟨name, if t.contains '=' then some parameters else none⟩

/-- The tag with its brackets. -/
def text (x : Tag) : Text :=
  match x.parameters with
  | none => '[' :: x.name ++ [']']
  | some p => '[' :: x.name ++ '=' :: p ++ [']']

end Tag

/-- A piece of a text with tags, which start at a position. -/
inductive Piece where
  | text (t : Text)
  | tag (tag : Tag) (position : Nat)
deriving DecidableEq, Repr

/-- The first character of a tag. -/
def startsTag (c : Char) : Bool := c.isLower || c = '#' || c = '/' || c = '@'

/-- The inside of a tag behind its opening bracket, and what follows the tag. -/
def inside? (t : Text) : Option (Text × Text) :=
  match t with
  | c :: _ =>
    if startsTag c && t.contains ']' then some (Text.cutAt ']' t) else none
  | [] => none

/-- A piece, unless there is no text. -/
def pieceOf (t : Text) : List Piece := if t.isEmpty then [] else [.text t]

/-- The text without the backslashes at its end, and their number. -/
def cutBackslashes (t : Text) : Text × Nat :=
  let lead := Text.trimEnd (· = '\\') t
  (lead, t.length - lead.length)

/-- The pieces of `held`, which ends at a position, and of parts before each of which there is an
opening bracket. Two backslashes before a tag stand for one, and a single one makes the tag a
text. -/
def piecesFrom : Nat → Text → List Text → List Piece
  | _, held, [] => pieceOf held
  | position, held, part :: parts =>
    match inside? part with
    | none => piecesFrom (position + 1 + part.length) (held ++ '[' :: part) parts
    | some (inside, after) =>
      let (lead, n) := cutBackslashes held
      let here :=
        if n % 2 = 1 then .text ('[' :: inside ++ [']']) else .tag (Tag.ofInside inside) position
      pieceOf lead ++ pieceOf (List.replicate (n / 2) '\\') ++ here ::
        piecesFrom (position + 1 + part.length) after parts

/-- The pieces of a text. No tag holds an opening bracket. -/
def pieces (t : Text) : List Piece :=
  match Text.pieces '[' t with
  | [] => []
  | held :: parts => piecesFrom held.length held parts

end OutlineTables.Markup
