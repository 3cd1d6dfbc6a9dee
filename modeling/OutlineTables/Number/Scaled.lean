import OutlineTables.Number.Binary64

/-!
Integers of many digits read as floating point numbers in the manner of a database: the leading
digits that fit into a word are scaled by a power of ten, which has 64 binary digits. The result
may differ from the nearest number in its last binary digit.
-/
namespace OutlineTables

/-- A positive number `significand * 2 ^ exponent` with at most 64 binary digits. -/
structure Extended where
  significand : Nat
  exponent : Nat
deriving DecidableEq, Repr

namespace Extended

/-- The bits of a significand. -/
def precision : Nat := 64

/-- The number nearest to `n * 2 ^ exponent`, an even significand winning a tie. -/
def round (n exponent : Nat) : Extended :=
  let extra := n.log2 + 1 - precision
  let unit := Nat.pow 2 extra
  let q := n / unit
  let twice := 2 * (n % unit)
  let up := if twice < unit then 0 else if unit < twice then 1 else q % 2
  ⟨q + up, exponent + extra⟩

def mul (x y : Extended) : Extended :=
  round (x.significand * y.significand) (x.exponent + y.exponent)

/-- `r * x ^ n` by repeated squaring, every product rounded. -/
def powerOnto (r x : Extended) : Nat → Nat → Extended
  | 0, _ => r
  | fuel + 1, n =>
    let r := if n % 2 = 1 then mul r x else r
    if n / 2 = 0 then r else powerOnto r (mul x x) fuel (n / 2)

/-- A power of ten. -/
def tenTo (n : Nat) : Extended := powerOnto ⟨1, 0⟩ ⟨10, 0⟩ (n + 1) n

def toBinary64 (negative : Bool) (x : Extended) : Binary64 :=
  Binary64.ofRatio negative (x.significand * Nat.pow 2 x.exponent) 1

end Extended

namespace Binary64

/-- The largest signed word. -/
def maxWord : Nat := 9223372036854775807

/-- The value of the leading digits up to the first that makes another one too many, and the
number of digits left. -/
def leading : Nat → List Nat → Nat × Nat
  | s, [] => (s, 0)
  | s, d :: ds => if (maxWord - 9) / 10 ≤ s then (s, ds.length + 1) else leading (10 * s + d) ds

/-- As many powers of ten taken into the word as it has room for, and how many are left. -/
def absorb : Nat → Nat → Nat × Nat
  | s, 0 => (s, 0)
  | s, e + 1 => if maxWord / 10 ≤ s then (s, e + 1) else absorb (10 * s) e

/-- Ten to the power of 308, the largest power of ten. -/
def largestPower : Binary64 := ofDecimal false 1 308

/-- The product with the largest power of ten. -/
def timesLargest : Binary64 → Binary64
  | .finite negative m e =>
    match largestPower with
    | .finite _ n k =>
      ofRatio negative (m * n * Nat.pow 2 (e + k).toNat) (Nat.pow 2 (-(e + k)).toNat)
    | _ => .infinite negative
  | x => x

/-- An integer of any number of digits. -/
def ofDigits (negative : Bool) (digits : List Nat) : Binary64 :=
  let (s, rest) := leading 0 digits
  let (s, e) := absorb s rest
  let scaled (k : Nat) : Binary64 :=
    ((Extended.mul ⟨s, 0⟩ (Extended.tenTo k)).toBinary64 negative)
  if e = 0 then ofRatio negative s 1
  else if e ≤ 307 then scaled e
  else if e < 342 then timesLargest (scaled (e - 308))
  else .infinite negative

/-- The floating point number that stands for an integer that is too large for a word. -/
def ofLongInt (n : Int) : Binary64 :=
  ofDigits (n < 0) ((Nat.toDigits 10 n.natAbs).map fun c => c.toNat - 48)

end Binary64

end OutlineTables
