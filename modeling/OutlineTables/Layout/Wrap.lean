import OutlineTables.Text.Blank
import OutlineTables.Text.Cluster

/-!
Text in lines of a given width. Lines break before words; a word that fits on no line is cut into
lines or shortened.
-/
namespace OutlineTables.Layout

/-- What becomes of a word that is wider than a line. -/
inductive Overflow where
  /-- It goes on in the next line. -/
  | fold
  /-- It ends in an ellipsis. -/
  | ellipsis
deriving DecidableEq, Repr

/-- The parts of a text with tabs, each but the last filled up to a column that is a multiple of
eight; `n` columns stand before them. -/
def joinTabbed (n : Nat) : List Text → Text
  | [] => []
  | [p] => p
  | p :: q :: ps =>
    let used := n + Text.width (p ++ [' '])
    let next := (used + 7) / 8 * 8
    p ++ ' ' :: List.replicate (next - used) ' ' ++ joinTabbed next (q :: ps)

/-- The text with blanks for tabs. -/
def expandTabs (t : Text) : Text := joinTabbed 0 (Text.pieces '\t' t)

/-- The blanks at the head of a text, and its words with the blanks behind them. -/
def runs : Text → Text × List Text
  | [] => ([], [])
  | c :: cs =>
    let (gap, ws) := runs cs
    if Text.isBlank c then (c :: gap, ws)
    else
      match gap, ws with
      | [], w :: ws => ([], (c :: w) :: ws)
      | gap, ws => ([], (c :: gap) :: ws)

/-- The words of a text with all its blanks: those at the head belong to the first word. A text
of blanks is one word. -/
def spacedWords (t : Text) : List Text :=
  match runs t with
  | (gap, w :: ws) => (gap ++ w) :: ws
  | (gap, []) => [gap]

/-- A line, unless there is none yet. -/
def lineOf (t : Text) : List Text := if t.isEmpty then [] else [t]

/-- Lines of `n` columns behind one that holds `used` of them. Only the blanks behind the last
word of a line may go beyond its end. -/
def fill (n : Nat) (overflow : Overflow) : Text → Nat → List Text → List Text
  | line, _, [] => [line]
  | line, used, w :: ws =>
    let bare := Text.width (Text.stripEnd w)
    if Nat.ble (used + bare) n then fill n overflow (line ++ w) (used + Text.width w) ws
    else
      let lines := if overflow = .fold && Nat.blt n bare then Text.chop n w else [w]
      let last := lines.getLastD []
      lineOf line ++ lines.dropLast ++ fill n overflow last (Text.width last) ws

/-- The line without the blanks at its end that stand beyond the column `n`. -/
def dropExcess (n : Nat) (t : Text) : Text :=
  t.take (t.length - min (t.length - (Text.stripEnd t).length) (t.length - n))

/-- A line that is too wide is shortened. -/
def shorten (n : Nat) (overflow : Overflow) (t : Text) : Text :=
  if Nat.ble (Text.width t) n then t
  else
    match overflow with
    | .fold => Text.fit n t
    | .ellipsis => Text.fit (n - 1) t ++ ['…']

/-- The text in lines of at most `n` columns. -/
def wrap (n : Nat) (overflow : Overflow) (t : Text) : List Text :=
  (Text.pieces '\n' t).flatMap fun line =>
    (fill n overflow [] 0 (spacedWords (expandTabs line))).map fun l =>
      shorten n overflow (dropExcess n l)

end OutlineTables.Layout
