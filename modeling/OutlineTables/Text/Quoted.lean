import OutlineTables.Text.Printable

/-!
Quoted text as it appears in messages: between single quotes, or between double quotes where that
saves an escape.
-/
namespace OutlineTables.Text

def hexDigit (n : Nat) : Char :=
  if n < 10 then Char.ofNat (48 + n) else Char.ofNat (87 + n)

/-- The last `width` hexadecimal digits of `n`, in lower case. -/
def hex : Nat → Nat → Text
  | 0, _ => []
  | width + 1, n => hex width (n / 16) ++ [hexDigit (n % 16)]

/-- Single quotes, unless the text holds a single quote and no double quote. -/
def quoteMark (t : Text) : Char :=
  if t.contains '\'' && !t.contains '"' then '"' else '\''

/-- One character between quotes `q`; what cannot be shown becomes its code point. -/
def quotedChar (q c : Char) : Text :=
  if c = q || c = '\\' then ['\\', c]
  else if c = '\n' then ['\\', 'n']
  else if c = '\r' then ['\\', 'r']
  else if c = '\t' then ['\\', 't']
  else if isPrintable c then [c]
  else if c.toNat < 0x100 then '\\' :: 'x' :: hex 2 c.toNat
  else if c.toNat < 0x10000 then '\\' :: 'u' :: hex 4 c.toNat
  else '\\' :: 'U' :: hex 8 c.toNat

/-- The text between quotes, with escapes for what cannot be shown. -/
def quoted (t : Text) : Text :=
  let q := quoteMark t
  q :: t.flatMap (quotedChar q) ++ [q]

end OutlineTables.Text
