/-!
Widths of columns that together fit on a line: where they do not, the widest columns give way
first, in equal shares.
-/
namespace OutlineTables.Layout

def total (ws : List Nat) : Nat := ws.foldr (· + ·) 0

def widest (ws : List Nat) : Nat := ws.foldr max 0

/-- The integer nearest to `a / n`; a half goes to the even neighbour. -/
def share (a n : Nat) : Nat :=
  let q := a / n
  let twice := 2 * (a % n)
  q + if Nat.blt n twice then 1 else if twice = n then q % 2 else 0

/-- Takes `excess` from the `n` columns of width `w`, at most `most` from each. -/
def takeFrom (w most : Nat) : Nat → Nat → List Nat → List Nat
  | _, _, [] => []
  | excess, n, v :: vs =>
    if v = w then
      let part := min most (share excess n)
      (v - part) :: takeFrom w most (excess - part) (n - 1) vs
    else v :: takeFrom w most excess n vs

/-- One step towards a total of `limit`: the widest columns become at most as narrow as the next
in width. -/
def narrowOnce (limit : Nat) (ws : List Nat) : List Nat :=
  let excess := total ws - limit
  let w := widest ws
  let next := widest (ws.filter (· ≠ w))
  takeFrom w (min excess (w - next)) excess (ws.count w) ws

/-- As many steps as `fuel`, or fewer if the total is reached. -/
def narrowWithin (limit : Nat) : Nat → List Nat → List Nat
  | 0, ws => ws
  | fuel + 1, ws =>
    if Nat.ble (total ws) limit then ws else narrowWithin limit fuel (narrowOnce limit ws)

/-- Widths of a total of at most `limit`; every step takes something. -/
def narrow (limit : Nat) (ws : List Nat) : List Nat := narrowWithin limit (total ws) ws

end OutlineTables.Layout
