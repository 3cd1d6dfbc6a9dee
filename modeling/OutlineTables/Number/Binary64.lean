/-!
Binary floating point numbers of 64 bits, by sign, significand and exponent, and the number
nearest to a fraction.
-/
namespace OutlineTables

/-- A floating point number; a finite one is `significand * 2 ^ exponent` with its sign. -/
inductive Binary64 where
  | finite (negative : Bool) (significand : Nat) (exponent : Int)
  | infinite (negative : Bool)
  /-- What is no number. -/
  | nan
deriving DecidableEq, Repr, Inhabited

namespace Binary64

/-- The smallest exponent of a finite number. -/
def minExponent : Int := -1074

/-- The largest exponent of a finite number. -/
def maxExponent : Int := 971

def zero (negative : Bool) : Binary64 := .finite negative 0 minExponent

/-- `num / den / 2 ^ e`, rounded to the nearest integer; a half goes to the even neighbour. -/
def scaled (num den : Nat) (e : Int) : Nat :=
  let n := if e < 0 then num * Nat.pow 2 (-e).toNat else num
  let d := if e < 0 then den else den * Nat.pow 2 e.toNat
  let q := n / d
  let twice := 2 * (n % d)
  if twice < d then q
  else if d < twice then q + 1
  else q + q % 2

/-- The largest exponent at which `num / den` has at most 53 binary digits before the point. -/
def exponentOf (num den : Nat) : Int :=
  let guess : Int := (num.log2 : Int) - den.log2 - 52
  let fits (e : Int) : Bool :=
    if e < 0 then Nat.blt (num * Nat.pow 2 (-e).toNat) (den * Nat.pow 2 53)
    else Nat.blt num (den * Nat.pow 2 53 * Nat.pow 2 e.toNat)
  let e := if fits (guess - 1) then guess - 1 else guess
  max e minExponent

/-- The number nearest to `num / den`, an even significand winning a tie. -/
def ofRatio (negative : Bool) (num den : Nat) : Binary64 :=
  if num = 0 then zero negative
  else
    let e := exponentOf num den
    let m := scaled num den e
    let (m, e) := if m = Nat.pow 2 53 then (Nat.pow 2 52, e + 1) else (m, e)
    if e > maxExponent then .infinite negative else .finite negative m e

/-- The number nearest to `digits * 10 ^ exponent`. -/
def ofDecimal (negative : Bool) (digits : Nat) (exponent : Int) : Binary64 :=
  let size : Int := (Nat.toDigits 10 digits).length + exponent
  if digits = 0 || size < -330 then zero negative
  else if size > 310 then .infinite negative
  else if exponent < 0 then ofRatio negative digits (Nat.pow 10 (-exponent).toNat)
  else ofRatio negative (digits * Nat.pow 10 exponent.toNat) 1

/-- The number nearest to an integer. -/
def ofInt (n : Int) : Binary64 := ofDecimal (n < 0) n.natAbs 0

/-- Zero of either sign. -/
def isZero : Binary64 → Bool
  | .finite _ m _ => m = 0
  | _ => false

/-- Equality of numbers: both zeros are equal, and what is no number equals nothing. -/
def same (x y : Binary64) : Bool := (x = y && x ≠ nan) || (x.isZero && y.isZero)

/-- The integer that the number is, if it is one. -/
def toInt? : Binary64 → Option Int
  | .finite negative m e =>
    let sign : Int := if negative then -1 else 1
    if e < 0 then
      let d := Nat.pow 2 (-e).toNat
      if m % d = 0 then some (sign * (m / d : Nat)) else none
    else some (sign * (m * Nat.pow 2 e.toNat : Nat))
  | _ => none

end Binary64

end OutlineTables
