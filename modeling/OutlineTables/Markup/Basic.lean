import OutlineTables.Markup.Emoji
import OutlineTables.Markup.Literal
import OutlineTables.Markup.Style
import OutlineTables.Markup.Tag

/-!
What is left of a text with tags where styles are not shown, and why a text is refused.
-/
namespace OutlineTables

/-- Why a text with tags is refused. -/
inductive MarkupFault where
  | unmatched (tag : Markup.Tag) (position : Nat)
  | nothingOpen (position : Nat)
  | style (fault : NumeralFault)
  | action (parameters : Text)
deriving DecidableEq, Repr

def MarkupFault.message : MarkupFault → Text
  | unmatched tag n =>
    "closing tag '".toList ++ tag.text ++ "' at position ".toList ++ Text.ofNat n ++
      " doesn't match any open tag".toList
  | nothingOpen n =>
    "closing tag '[/]' at position ".toList ++ Text.ofNat n ++ " has nothing to close".toList
  | style f => f.message
  | action t =>
    "error parsing ".toList ++ Text.quoted (Text.strip t) ++ " in ".toList ++ Text.quoted t ++
      "; invalid syntax".toList

namespace Markup

/-- The controls that are never shown. -/
def isHidden (c : Char) : Bool := c.toNat = 7 || c.toNat = 8 || (11 ≤ c.toNat && c.toNat ≤ 13)

/-- The text without a backslash before each opening bracket. -/
def unescape : Text → Text
  | [] => []
  | '\\' :: '[' :: t => '[' :: unescape t
  | c :: t => c :: unescape t

/-- What is shown of a text outside of tags. -/
def shownText (t : Text) : Text := (draw (unescape t)).filter (!isHidden ·)

/-- The tag that a closing tag closes, and the tags that stay open; the latest comes first. -/
def close (opened : List Tag) (tag : Tag) (position : Nat) :
    Except MarkupFault (Tag × List Tag) := do
  let name := Text.strip (tag.name.drop 1)
  if name.isEmpty then
    match opened with
    | [] => throw (.nothingOpen position)
    | x :: rest => return (x, rest)
  else
    let name ← (normalName name).mapError .style
    match opened.find? (·.name = name) with
    | none => throw (.unmatched tag position)
    | some x => return (x, opened.eraseP (·.name = name))

/-- The parameters of an action are read when its tag is closed. -/
def checkAction (tag : Tag) : Except MarkupFault Unit :=
  match tag.name, tag.parameters with
  | '@' :: _, some p => if p.isEmpty || isAction p then .ok () else .error (.action p)
  | _, _ => .ok ()

/-- What is shown of some pieces behind open tags, the latest first. Tags may stay open. -/
def shownFrom : List Tag → List Piece → Except MarkupFault Text
  | _, [] => .ok []
  | opened, .text t :: ps => (shownFrom opened ps).map (shownText t ++ ·)
  | opened, .tag tag position :: ps =>
    if tag.name.head? = some '/' then do
      let (closed, opened) ← close opened tag position
      checkAction closed
      shownFrom opened ps
    else do
      let name ← (normalName tag.name).mapError .style
      shownFrom ({ tag with name } :: opened) ps

/-- The name and the parameters of an opening tag are together read as a style, which need not be
one. -/
def checkStyle : Piece → Except MarkupFault Unit
  | .tag ⟨name, some parameters⟩ _ =>
    if name.head? = some '/' then .ok ()
    else discard ((normalName (name ++ ' ' :: parameters)).mapError .style)
  | _ => .ok ()

/-- What is shown of a text with tags. -/
def shown (t : Text) : Except MarkupFault Text := do
  let ps := pieces t
  let text ← shownFrom [] ps
  ps.forM checkStyle
  return text

end Markup

end OutlineTables
