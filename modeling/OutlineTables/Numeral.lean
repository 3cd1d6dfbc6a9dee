import OutlineTables.Text.Digit
import OutlineTables.Text.Quoted

/-!
Numbers written in the decimal digits of any script, of at most 4300 digits.
-/
namespace OutlineTables

/-- Why a text is no number. -/
inductive NumeralFault where
  | tooLong (digits : Nat)
  | notDecimal (written : Text)
deriving DecidableEq, Repr

def NumeralFault.message : NumeralFault → Text
  | tooLong n =>
    "Exceeds the limit (4300 digits) for integer string conversion: value has ".toList ++
      Text.ofNat n ++
      " digits; use sys.set_int_max_str_digits() to increase the limit".toList
  | notDecimal t => "invalid literal for int() with base 10: ".toList ++ (Text.quoted t).take 200

namespace Numeral

/-- The longest number that is read. -/
def maxDigits : Nat := 4300

/-- The value of a run of digits; other characters count nothing. -/
def value (t : Text) : Nat := t.foldl (fun n c => 10 * n + (Text.digitValue? c).getD 0) 0

/-- The number that the whole text writes. -/
def read (t : Text) : Except NumeralFault Nat :=
  let run := t.takeWhile Text.isDigit
  if maxDigits < run.length then .error (.tooLong run.length)
  else if run.length = t.length ∧ t ≠ [] then .ok (value t)
  else .error (.notDecimal t)

end Numeral

end OutlineTables
