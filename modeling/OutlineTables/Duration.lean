import OutlineTables.Numeral
import OutlineTables.Text.Blank

/-!
Planned effort in minutes.
-/
namespace OutlineTables.Duration

/-- A run of characters with a digit value, at least one. -/
def looksNumeric (t : Text) : Bool := !t.isEmpty && t.all Text.isDigitLike

/-- Minutes written as hours and minutes around a colon, or as minutes alone. Anything else has no
value, but what looks like digits and is no number is a fault. -/
def minutes (t : Text) : Except NumeralFault (Option Nat) :=
  let t := Text.strip t
  if t.contains ':' then
    let (hours, rest) := Text.cutAt ':' t
    if looksNumeric hours && looksNumeric rest then do
      let h ← Numeral.read hours
      let m ← Numeral.read rest
      .ok (some (h * 60 + m))
    else .ok none
  else if looksNumeric t then (Numeral.read t).map some
  else .ok none

end OutlineTables.Duration
