import OutlineTables.Text.Basic

/-!
Control sequences of terminals: an escape, an opening bracket, digits and a few signs, and a letter
at the end.
-/
namespace OutlineTables.Text

def escape : Char := '\x1b'

/-- What may stand between the bracket and the letter of a control sequence. -/
def isSequenceInner (c : Char) : Bool := c.isDigit || c = ';' || c = '?'

/-- The text without control sequences, behind what may be the beginning of one. -/
def plainAfter : Text → Text → Text
  | held, [] => held
  | [], c :: cs => if c = escape then plainAfter [c] cs else c :: plainAfter [] cs
  | [e], c :: cs =>
    if c = '[' then plainAfter [e, c] cs
    else if c = escape then e :: plainAfter [c] cs
    else e :: c :: plainAfter [] cs
  | held, c :: cs =>
    if isSequenceInner c then plainAfter (held ++ [c]) cs
    else if c.isAlpha then plainAfter [] cs
    else if c = escape then held ++ plainAfter [c] cs
    else held ++ c :: plainAfter [] cs

/-- The text without control sequences. -/
def plain (t : Text) : Text := plainAfter [] t

end OutlineTables.Text
