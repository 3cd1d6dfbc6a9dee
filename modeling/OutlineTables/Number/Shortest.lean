import OutlineTables.Number.Binary64
import OutlineTables.Text.Basic

/-!
The decimal text of a floating point number: the fewest digits that read back as the number, and
of those the nearest.
-/
namespace OutlineTables.Binary64

/-- The exponent of the leading decimal digit of `num / den`, looked for from `10 ^ k` downwards. -/
def leadingExponent (num den : Nat) : Nat → Int → Int
  | 0, k => k
  | fuel + 1, k =>
    let reached :=
      if k < 0 then Nat.ble den (num * Nat.pow 10 (-k).toNat)
      else Nat.ble (den * Nat.pow 10 k.toNat) num
    if reached then k else leadingExponent num den fuel (k - 1)

/-- The interval of fractions that round to a number, over a common denominator. -/
structure Rounding where
  low : Nat
  value : Nat
  high : Nat
  den : Nat
  /-- Whether the ends round to the number as well. -/
  closed : Bool

/-- Half the gap to either neighbour; below a power of two the lower gap is half as wide. -/
def rounding (m : Nat) (e : Int) : Rounding :=
  let lower := if m = Nat.pow 2 52 && e > minExponent then 1 else 2
  let scale := if e < 2 then 1 else Nat.pow 2 (e - 2).toNat
  { low := (4 * m - lower) * scale
    value := 4 * m * scale
    high := (4 * m + 2) * scale
    den := if e < 2 then Nat.pow 2 (2 - e).toNat else 1
    closed := m % 2 = 0 }

/-- Whether `digits * 10 ^ k` rounds to the number. -/
def Rounding.holds (r : Rounding) (digits : Nat) (k : Int) : Bool :=
  let n := if k < 0 then digits * r.den else digits * r.den * Nat.pow 10 k.toNat
  let s := if k < 0 then Nat.pow 10 (-k).toNat else 1
  if r.closed then Nat.ble (r.low * s) n && Nat.ble n (r.high * s)
  else Nat.blt (r.low * s) n && Nat.blt n (r.high * s)

/-- The hit among the two neighbours of the value on the grid of multiples of `10 ^ k`. -/
def Rounding.onGrid? (r : Rounding) (k : Int) : Option Nat :=
  let n := if k < 0 then r.value * Nat.pow 10 (-k).toNat else r.value
  let d := if k < 0 then r.den else r.den * Nat.pow 10 k.toNat
  let q := n / d
  let rest := n % d
  let up := r.holds (q + 1) k
  if r.holds q k then
    -- Of two hits the nearer; in the middle the lower.
    if up && Nat.blt d (2 * rest) then some (q + 1) else some q
  else if up then some (q + 1)
  else none

/-- The first of the grids `10 ^ k`, `10 ^ (k - 1)`, … with a hit. -/
def Rounding.shortest (r : Rounding) : Nat → Int → Nat × Int
  | 0, k => (0, k)
  | fuel + 1, k =>
    match r.onGrid? k with
    | some d => (d, k)
    | none => Rounding.shortest r fuel (k - 1)

/-- Digits and exponent of the shortest decimal that reads back as `m * 2 ^ e`. -/
def shortestDecimal (m : Nat) (e : Int) : Nat × Int :=
  let r := rounding m e
  let top := leadingExponent r.value r.den 700 310
  r.shortest 20 top

/-- How a decimal is laid out. -/
structure DecimalLayout where
  /-- Positional notation for leading exponents from `fromExponent` up to `belowExponent`. -/
  fromExponent : Int
  belowExponent : Int
  exponentDigits : Nat

/-- Positional from `10 ^ -4` up to `10 ^ 16`, and exponents of at least two digits. -/
def layout : DecimalLayout := ⟨-4, 16, 2⟩

/-- Zeros in front, up to a width. -/
def padZeros (width : Nat) (t : Text) : Text := List.replicate (width - t.length) '0' ++ t

/-- `digits * 10 ^ k`, always with a point or an exponent. -/
def DecimalLayout.render (l : DecimalLayout) (digits : Nat) (k : Int) : Text :=
  let ds := Text.trimEnd (· = '0') (Text.ofNat digits)
  let lead : Int := (Text.ofNat digits).length - 1 + k
  if l.fromExponent ≤ lead && lead < l.belowExponent then
    if lead < 0 then '0' :: '.' :: List.replicate (-lead - 1).toNat '0' ++ ds
    else
      let whole := ds.take (lead.toNat + 1)
      let part := ds.drop (lead.toNat + 1)
      whole ++ List.replicate (lead.toNat + 1 - whole.length) '0' ++ '.' ::
        (if part.isEmpty then ['0'] else part)
  else
    let sign := if lead < 0 then '-' else '+'
    let mark := 'e' :: sign :: padZeros l.exponentDigits (Text.ofNat lead.natAbs)
    match ds with
    | [] => '0' :: mark
    | [d] => d :: mark
    | d :: rest => d :: '.' :: rest ++ mark

/-- The text of a number. -/
def toText : Binary64 → Text
  | .nan => "nan".toList
  | .infinite negative => (if negative then ['-'] else []) ++ "inf".toList
  | .finite negative m e =>
    let sign := if negative then ['-'] else []
    if m = 0 then sign ++ "0.0".toList
    else
      let (d, k) := shortestDecimal m e
      sign ++ layout.render d k

end OutlineTables.Binary64
