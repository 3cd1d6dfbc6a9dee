import OutlineTables.Text.Blank

/-!
Lines with their positions, and the non-overlapping occurrences of a pattern in a line.
-/
namespace OutlineTables

/-- A line without its line feed, and the position of its first character. -/
structure Line where
  offset : Int
  text : Text
deriving DecidableEq, Repr

namespace Line

/-- Texts as lines, the first at `pos`. -/
def numbered : Int → List Text → List Line
  | _, [] => []
  | pos, t :: ts => ⟨pos, t⟩ :: numbered (pos + t.length + 1) ts

/-- The lines of a text; positions count from 1. -/
def ofText (t : Text) : List Line := numbered 1 (Text.pieces '\n' t)

/-- The lines from an index on. An index below zero counts from the last line backwards, and after
the last line all lines follow; none if there are not so many. -/
def startingAt? (start : Int) (ls : List Line) : Option (List Line) :=
  match start with
  | .ofNat n => some (ls.drop n)
  | .negSucc n => if n < ls.length then some (ls.drop (ls.length - (n + 1)) ++ ls) else none

end Line

namespace Text

/-- The leading spaces and tabs. -/
def indent (t : Text) : Nat := (t.takeWhile isGap).length

/-- The occurrences of a pattern from left to right, each with its position. The search goes on
behind each one; `size` is the number of characters that it takes. -/
def scan (read? : Text → Option α) (size : α → Nat) : Int → Nat → Text → List (Int × α)
  | _, _, [] => []
  | pos, skip + 1, _ :: cs => scan read? size (pos + 1) skip cs
  | pos, 0, c :: cs =>
    match read? (c :: cs) with
    | some a => (pos, a) :: scan read? size (pos + 1) (size a - 1) cs
    | none => scan read? size (pos + 1) 0 cs

end Text

end OutlineTables
