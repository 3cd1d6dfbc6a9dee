import OutlineTables.Numeral
import OutlineTables.Value.Basic

/-!
Values written as JSON. Numbers with a point or an exponent are floating point numbers, all others
are integers; of a repeated key the last value counts. The floating point values that no digits
write have names.
-/
namespace OutlineTables.Json

/-- The white space of JSON. -/
def isSpace (c : Char) : Bool := c = ' ' || c = '\t' || c = '\n' || c = '\r'

def skipSpace (t : Text) : Text := t.dropWhile isSpace

def hexValue? (c : Char) : Option Nat :=
  if '0' ≤ c && c ≤ '9' then some (c.toNat - 48)
  else if 'a' ≤ c && c ≤ 'f' then some (c.toNat - 87)
  else if 'A' ≤ c && c ≤ 'F' then some (c.toNat - 55)
  else none

/-- The number written by four hexadecimal digits, and what follows them. -/
def unit? : Text → Option (Nat × Text)
  | a :: b :: c :: d :: rest => do
    let w ← hexValue? a
    let x ← hexValue? b
    let y ← hexValue? c
    let z ← hexValue? d
    some (((w * 16 + x) * 16 + y) * 16 + z, rest)
  | _ => none

/-- A code point; a lone half of a surrogate pair is replaced. -/
def charOf (n : Nat) : Char := if n.isValidChar then Char.ofNat n else '\ufffd'

def isHighHalf (n : Nat) : Bool := Nat.ble 0xD800 n && Nat.blt n 0xDC00

def isLowHalf (n : Nat) : Bool := Nat.ble 0xDC00 n && Nat.blt n 0xE000

/-- The character of an escape, after its backslash. -/
def escape? : Text → Option (Char × Text)
  | 'u' :: t => do
    let (n, rest) ← unit? t
    if isHighHalf n then
      match rest with
      | '\\' :: 'u' :: t =>
        match unit? t with
        | some (m, after) =>
          if isLowHalf m then
            some (charOf (0x10000 + (n - 0xD800) * 0x400 + (m - 0xDC00)), after)
          else some (charOf n, rest)
        | none => some (charOf n, rest)
      | _ => some (charOf n, rest)
    else some (charOf n, rest)
  | 'n' :: t => some ('\n', t)
  | 't' :: t => some ('\t', t)
  | 'r' :: t => some ('\r', t)
  | 'b' :: t => some ('\x08', t)
  | 'f' :: t => some ('\x0c', t)
  | c :: t => if c = '"' || c = '\\' || c = '/' then some (c, t) else none
  | [] => none

/-- The text up to the closing quote, and what follows it. -/
def text? : Nat → Text → Option (Text × Text)
  | 0, _ => none
  | _ + 1, [] => none
  | fuel + 1, c :: t =>
    if c = '"' then some ([], t)
    else if c.toNat < 0x20 then none
    else if c = '\\' then do
      let (d, rest) ← escape? t
      let (s, rest) ← text? fuel rest
      some (d :: s, rest)
    else do
      let (s, rest) ← text? fuel t
      some (c :: s, rest)

def isAsciiDigit (c : Char) : Bool := '0' ≤ c && c ≤ '9'

def natOf (ds : Text) : Nat := ds.foldl (fun n c => 10 * n + (c.toNat - 48)) 0

/-- The digits after a point, if there are any. -/
def fraction : Text → Option Text × Text
  | '.' :: t =>
    match t.takeWhile isAsciiDigit with
    | [] => (none, '.' :: t)
    | ds => (some ds, t.dropWhile isAsciiDigit)
  | t => (none, t)

/-- A signed exponent, if there is one. -/
def exponent : Text → Option Int × Text
  | [] => (none, [])
  | e :: t =>
    if e = 'e' || e = 'E' then
      let (negative, u) :=
        match t with
        | '-' :: u => (true, u)
        | '+' :: u => (false, u)
        | u => (false, u)
      match u.takeWhile isAsciiDigit with
      | [] => (none, e :: t)
      | ds =>
        let n : Int := natOf ds
        (some (if negative then -n else n), u.dropWhile isAsciiDigit)
    else (none, e :: t)

/-- A number after its sign; integers have at most as many digits as a numeral. -/
def number? (negative : Bool) (t : Text) : Option (Value × Text) :=
  let digits := match t with
    | '0' :: _ => ['0']
    | _ => t.takeWhile isAsciiDigit
  if digits.isEmpty then none
  else
    let (frac, t) := fraction (t.drop digits.length)
    let (exp, t) := exponent t
    match frac, exp with
    | none, none =>
      let n : Int := natOf digits
      if Numeral.maxDigits < digits.length then none
      else some (.int (if negative then -n else n), t)
    | _, _ =>
      let fs := frac.getD []
      some (.float (Binary64.ofDecimal negative (natOf (digits ++ fs)) (exp.getD 0 - fs.length)), t)

/-- The values that are written as words. -/
def words : List (Text × Value) :=
  [("null".toList, .null), ("true".toList, .bool true), ("false".toList, .bool false),
    ("NaN".toList, .float .nan), ("Infinity".toList, .float (.infinite false)),
    ("-Infinity".toList, .float (.infinite true))]

/-- A word at the head of the text. -/
def word? (t : Text) : Option (Value × Text) :=
  words.findSome? fun (w, v) => (Text.after? w t).map fun rest => (v, rest)

mutual

/-- A value at the head of the text; each unit of fuel admits one more token. -/
def value? : Nat → Text → Option (Value × Text)
  | 0, _ => none
  | fuel + 1, t =>
    match skipSpace t with
    | [] => none
    | '"' :: t => (text? (t.length + 1) t).map fun (s, rest) => (.text s, rest)
    | '[' :: t =>
      match skipSpace t with
      | ']' :: rest => some (.list [], rest)
      | t => (items? fuel t).map fun (vs, rest) => (.list vs, rest)
    | '\x7b' :: t =>
      match skipSpace t with
      | '\x7d' :: rest => some (.object [], rest)
      | t => (fields? fuel [] t).map fun (fs, rest) => (.object fs, rest)
    | t =>
      match word? t, t with
      | some r, _ => some r
      | none, '-' :: t => number? true t
      | none, t => number? false t

/-- The items of a list up to its closing bracket. -/
def items? : Nat → Text → Option (List Value × Text)
  | 0, _ => none
  | fuel + 1, t => do
    let (v, rest) ← value? fuel t
    match skipSpace rest with
    | ',' :: rest => do
      let (vs, rest) ← items? fuel rest
      some (v :: vs, rest)
    | ']' :: rest => some ([v], rest)
    | _ => none

/-- The fields of an object up to its closing brace, after those already read. -/
def fields? : Nat → List (String × Value) → Text → Option (List (String × Value) × Text)
  | 0, _, _ => none
  | fuel + 1, seen, t =>
    match skipSpace t with
    | '"' :: t => do
      let (key, rest) ← text? (t.length + 1) t
      match skipSpace rest with
      | ':' :: rest => do
        let (v, rest) ← value? fuel rest
        let seen := Value.setField (String.ofList key) v seen
        match skipSpace rest with
        | ',' :: rest => fields? fuel seen rest
        | '\x7d' :: rest => some (seen, rest)
        | _ => none
      | _ => none
    | _ => none

end

/-- The value that the whole text writes. -/
def parse? (t : Text) : Option Value := do
  let (v, rest) ← value? (t.length + 1) t
  if (skipSpace rest).isEmpty then some v else none

def escapedUnit (n : Nat) : Text := '\\' :: 'u' :: Text.hex 4 n

/-- A character inside quotes; whatever is not printable ASCII is escaped. -/
def escaped (c : Char) : Text :=
  if c = '"' || c = '\\' then ['\\', c]
  else if c = '\n' then ['\\', 'n']
  else if c.toNat < 0x20 || Nat.ble 0x7f c.toNat then
    if c.toNat < 0x10000 then escapedUnit c.toNat
    else
      let n := c.toNat - 0x10000
      escapedUnit (0xD800 + n / 0x400) ++ escapedUnit (0xDC00 + n % 0x400)
  else [c]

def renderText (t : Text) : Text := '"' :: t.flatMap escaped ++ ['"']

/-- A number; those without digits by name. -/
def renderFloat : Binary64 → Text
  | .nan => "NaN".toList
  | .infinite false => "Infinity".toList
  | .infinite true => "-Infinity".toList
  | x => x.toText

mutual

def render : Value → Text
  | .null => "null".toList
  | .bool true => "true".toList
  | .bool false => "false".toList
  | .int n => Text.ofInt n
  | .float x => renderFloat x
  | .text t => renderText t
  | .list items => '[' :: Text.join [','] (renderItems items) ++ [']']
  | .object fields => '\x7b' :: Text.join [','] (renderFields fields) ++ ['\x7d']

def renderItems : List Value → List Text
  | [] => []
  | v :: vs => render v :: renderItems vs

def renderFields : List (String × Value) → List Text
  | [] => []
  | (k, v) :: fs => (renderText k.toList ++ ':' :: render v) :: renderFields fs

end

end OutlineTables.Json
