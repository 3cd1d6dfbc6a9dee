import OutlineTables.Text.Width

/-!
Text cut between columns. Characters that are shown as one sign stay together.
-/
namespace OutlineTables.Text

/-- Characters shown as one sign, and its width. -/
structure Cluster where
  chars : Text
  width : Nat
deriving DecidableEq, Repr

/-- The clusters from `x` on, to which more characters may belong; `last` is its latest character
of some width. -/
def clustersFrom : Option Char → Cluster → Text → List Cluster
  | _, x, [] => [x]
  | last, x, c :: cs =>
    if c = joiner then
      match cs with
      | [] => [{ x with chars := x.chars ++ [c] }]
      | d :: rest => clustersFrom last { x with chars := x.chars ++ [c, d] } rest
    else if c = pictureSelector then
      if last.any isWidened then clustersFrom none ⟨x.chars ++ [c], x.width + 1⟩ cs
      else clustersFrom last { x with chars := x.chars ++ [c] } cs
    else if charWidth c = 0 then clustersFrom last { x with chars := x.chars ++ [c] } cs
    else x :: clustersFrom (some c) ⟨[c], charWidth c⟩ cs

def clusters : Text → List Cluster
  | [] => []
  | c :: cs =>
    if c = joiner || c = pictureSelector || charWidth c = 0 then clustersFrom none ⟨[c], 0⟩ cs
    else clustersFrom (some c) ⟨[c], charWidth c⟩ cs

/-- The first columns; half of a wide sign is a blank. -/
def cut : Nat → List Cluster → Text
  | _, [] => []
  | n, x :: xs =>
    if n = 0 then []
    else if Nat.ble x.width n then x.chars ++ cut (n - x.width) xs
    else [' ']

/-- The text cut or filled with blanks to a width. -/
def fit (n : Nat) (t : Text) : Text :=
  if n = 0 then [] else if Nat.ble (width t) n then padTo n t else cut n (clusters t)

/-- Lines of at most `n` columns behind a line that holds `size` of them. -/
def chopFrom (n : Nat) : Text → Nat → List Cluster → List Text
  | line, _, [] => if line.isEmpty then [] else [line]
  | line, size, x :: xs =>
    if Nat.ble (size + x.width) n then chopFrom n (line ++ x.chars) (size + x.width) xs
    else line :: chopFrom n x.chars x.width xs

/-- The text in lines of at most `n` columns. -/
def chop (n : Nat) (t : Text) : List Text := chopFrom n [] 0 (clusters t)

end OutlineTables.Text
