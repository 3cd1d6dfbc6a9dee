import OutlineTables.Text.Quoted

/-!
Text as bytes: UTF-8, UTF-16 behind a byte order mark, and the line ends of text files.
-/
namespace OutlineTables.Encoding

abbrev Bytes := List UInt8

/-- The bytes of one character in UTF-8. -/
def utf8Char (c : Char) : Bytes :=
  let n := c.toNat
  if n < 0x80 then [UInt8.ofNat n]
  else if n < 0x800 then [UInt8.ofNat (0xC0 + n / 0x40), UInt8.ofNat (0x80 + n % 0x40)]
  else if n < 0x10000 then
    [UInt8.ofNat (0xE0 + n / 0x1000), UInt8.ofNat (0x80 + n / 0x40 % 0x40),
      UInt8.ofNat (0x80 + n % 0x40)]
  else
    [UInt8.ofNat (0xF0 + n / 0x40000), UInt8.ofNat (0x80 + n / 0x1000 % 0x40),
      UInt8.ofNat (0x80 + n / 0x40 % 0x40), UInt8.ofNat (0x80 + n % 0x40)]

def utf8 (t : Text) : Bytes := t.flatMap utf8Char

/-- A continuation byte, by its six bits. -/
def tail? (b : UInt8) : Option Nat :=
  if 0x80 ≤ b.toNat ∧ b.toNat < 0xC0 then some (b.toNat - 0x80) else none

/-- A code point that is at least `least` and no surrogate. -/
def scalar? (least n : Nat) : Option Char :=
  if least ≤ n ∧ n.isValidChar then some (Char.ofNat n) else none

/-- The text that the bytes write in UTF-8: shortest forms only, no surrogates. -/
def ofUtf8? : Bytes → Option Text
  | [] => some []
  | a :: rest =>
    if a.toNat < 0x80 then (ofUtf8? rest).map (Char.ofNat a.toNat :: ·)
    else if a.toNat < 0xC0 then none
    else
      match rest with
      | [] => none
      | b :: rest =>
        if a.toNat < 0xE0 then do
          let x ← tail? b
          let c ← scalar? 0x80 ((a.toNat - 0xC0) * 0x40 + x)
          (ofUtf8? rest).map (c :: ·)
        else
          match rest with
          | [] => none
          | d :: rest =>
            if a.toNat < 0xF0 then do
              let x ← tail? b
              let y ← tail? d
              let c ← scalar? 0x800 (((a.toNat - 0xE0) * 0x40 + x) * 0x40 + y)
              (ofUtf8? rest).map (c :: ·)
            else
              match rest with
              | [] => none
              | e :: rest =>
                if a.toNat < 0xF8 then do
                  let x ← tail? b
                  let y ← tail? d
                  let z ← tail? e
                  let c ← scalar? 0x10000
                    ((((a.toNat - 0xF0) * 0x40 + x) * 0x40 + y) * 0x40 + z)
                  (ofUtf8? rest).map (c :: ·)
                else none

/-- The order of the two bytes of a unit. -/
inductive ByteOrder where
  | little
  | big
deriving DecidableEq, Repr

namespace ByteOrder

/-- The mark in front of a text in this order. -/
def mark : ByteOrder → Bytes
  | little => [0xFF, 0xFE]
  | big => [0xFE, 0xFF]

def unit (order : ByteOrder) (a b : UInt8) : Nat :=
  match order with
  | little => a.toNat + 0x100 * b.toNat
  | big => 0x100 * a.toNat + b.toNat

def bytes (order : ByteOrder) (n : Nat) : Bytes :=
  match order with
  | little => [UInt8.ofNat (n % 0x100), UInt8.ofNat (n / 0x100)]
  | big => [UInt8.ofNat (n / 0x100), UInt8.ofNat (n % 0x100)]

end ByteOrder

/-- The bytes of one character in UTF-16. -/
def utf16Char (order : ByteOrder) (c : Char) : Bytes :=
  let n := c.toNat
  if n < 0x10000 then order.bytes n
  else
    order.bytes (0xD800 + (n - 0x10000) / 0x400) ++ order.bytes (0xDC00 + (n - 0x10000) % 0x400)

def utf16 (order : ByteOrder) (t : Text) : Bytes := order.mark ++ t.flatMap (utf16Char order)

/-- An encoding of text as bytes. -/
inductive Scheme where
  | utf8
  | utf16 (order : ByteOrder)
deriving DecidableEq, Repr

/-- What is wrong with bytes. -/
inductive Flaw where
  | badStart
  | badContinuation
  | unexpectedEnd
  | truncated
  | loneLow
  | loneHigh
deriving DecidableEq, Repr

/-- Why bytes are no text: they have no mark, or `bytes` at a position are wrong. -/
inductive DecodeFault where
  | noMark
  | bad (scheme : Scheme) (position : Nat) (bytes : Bytes) (flaw : Flaw)
deriving DecidableEq, Repr

namespace DecodeFault

def schemeName : Scheme → String
  | .utf8 => "'utf-8'"
  | .utf16 .little => "'utf-16-le'"
  | .utf16 .big => "'utf-16-be'"

def reason : Flaw → String
  | .badStart => "invalid start byte"
  | .badContinuation => "invalid continuation byte"
  | .unexpectedEnd => "unexpected end of data"
  | .truncated => "truncated data"
  | .loneLow => "illegal encoding"
  | .loneHigh => "illegal UTF-16 surrogate"

def message : DecodeFault → Text
  | noMark => "UTF-16 stream does not start with BOM".toList
  | bad scheme position bytes flaw =>
    let place :=
      match bytes with
      | [b] =>
        " codec can't decode byte 0x".toList ++ Text.hex 2 b.toNat ++
          " in position ".toList ++ Text.ofNat position
      | bs =>
        " codec can't decode bytes in position ".toList ++ Text.ofNat position ++
          '-' :: Text.ofNat (position + bs.length - 1)
    (schemeName scheme).toList ++ place ++ ": ".toList ++ (reason flaw).toList

end DecodeFault

/-- The number of bytes of a character in UTF-8 by its first byte, with the least and the largest
second byte; none if no character starts like this. -/
def utf8Form? (a : Nat) : Option (Nat × Nat × Nat) :=
  if a < 0x80 then some (1, 0, 0)
  else if a < 0xC2 then none
  else if a < 0xE0 then some (2, 0x80, 0xBF)
  else if a = 0xE0 then some (3, 0xA0, 0xBF)
  else if a = 0xED then some (3, 0x80, 0x9F)
  else if a < 0xF0 then some (3, 0x80, 0xBF)
  else if a = 0xF0 then some (4, 0x90, 0xBF)
  else if a = 0xF4 then some (4, 0x80, 0x8F)
  else if a < 0xF4 then some (4, 0x80, 0xBF)
  else none

/-- The number of bytes of the character at the head, or the number of bytes that are wrong. -/
def utf8Head (a : UInt8) (rest : Bytes) : Except (Nat × Flaw) Nat :=
  match utf8Form? a.toNat with
  | none => .error (1, .badStart)
  | some (size, low, high) =>
    let tail := rest.take (size - 1)
    -- The first byte behind the head that cannot stand there.
    let wrong (p : UInt8 × Nat) : Bool :=
      if p.2 = 0 then p.1.toNat < low || high < p.1.toNat else (tail? p.1).isNone
    match tail.zipIdx.find? wrong with
    | some (_, n) => .error (n + 1, .badContinuation)
    | none => if tail.length + 1 < size then .error (tail.length + 1, .unexpectedEnd) else .ok size

/-- The first fault of bytes from a position on that are no UTF-8; each unit of fuel admits one
more character. -/
def utf8Fault? : Nat → Nat → Bytes → Option DecodeFault
  | 0, _, _ => none
  | _ + 1, _, [] => none
  | fuel + 1, position, a :: rest =>
    match utf8Head a rest with
    | .ok n => utf8Fault? fuel (position + n) (rest.drop (n - 1))
    | .error (n, flaw) => some (.bad .utf8 position ((a :: rest).take n) flaw)

/-- The text that the bytes write in UTF-8, or their first fault. -/
def ofUtf8 (bytes : Bytes) : Except DecodeFault Text :=
  match ofUtf8? bytes with
  | some t => .ok t
  | none => .error ((utf8Fault? (bytes.length + 1) 0 bytes).getD .noMark)

/-- The text that the bytes from a position on write in UTF-16; halves of pairs must stand
together. -/
def ofUnits (order : ByteOrder) (position : Nat) : Bytes → Except DecodeFault Text
  | [] => .ok []
  | [a] => .error (.bad (.utf16 order) position [a] .truncated)
  | a :: b :: rest =>
    let n := order.unit a b
    if n < 0xD800 ∨ 0xE000 ≤ n then
      (ofUnits order (position + 2) rest).map (Char.ofNat n :: ·)
    else if 0xDC00 ≤ n then .error (.bad (.utf16 order) position [a, b] .loneLow)
    else
      -- The first half of a pair, which needs the second half behind it.
      match rest with
      | c :: d :: rest =>
        let m := order.unit c d
        if 0xDC00 ≤ m ∧ m < 0xE000 then
          (ofUnits order (position + 4) rest).map
            (Char.ofNat (0x10000 + (n - 0xD800) * 0x400 + (m - 0xDC00)) :: ·)
        else .error (.bad (.utf16 order) position [a, b] .loneHigh)
      | rest => .error (.bad (.utf16 order) position (a :: b :: rest) .unexpectedEnd)

/-- UTF-16 is read only behind its mark. -/
def ofUtf16 : Bytes → Except DecodeFault Text
  | [] => .ok []
  | 0xFF :: 0xFE :: rest => ofUnits .little 2 rest
  | 0xFE :: 0xFF :: rest => ofUnits .big 2 rest
  -- Wrong units are reported before the missing mark.
  | bytes => (ofUnits .little 0 bytes).bind fun _ => .error .noMark

/-- Every line end as a single line feed. -/
def foldLineEnds : Text → Text
  | [] => []
  | c :: rest =>
    if c = '\r' then
      match rest with
      | '\n' :: more => '\n' :: foldLineEnds more
      | more => '\n' :: foldLineEnds more
    else c :: foldLineEnds rest

/-- The text of a file: UTF-8 if it is that, else UTF-16. -/
def readText (bytes : Bytes) : Except DecodeFault Text :=
  match ofUtf8? bytes with
  | some t => .ok (foldLineEnds t)
  | none => (ofUtf16 bytes).map foldLineEnds

/-- A character that is no hexadecimal digit, by its position. -/
structure HexFault where
  position : Nat

def HexFault.message (f : HexFault) : Text :=
  "non-hexadecimal number found in fromhex() arg at position ".toList ++ Text.ofNat f.position

/-- The white space that may stand between the bytes of hexadecimal text. -/
def isHexBlank (c : Char) : Bool := c = ' ' || (9 ≤ c.toNat && c.toNat ≤ 13)

/-- The bytes that pairs of hexadecimal digits write, from a position on. -/
def ofDigits (value? : Char → Option Nat) (position : Nat) : Text → Except HexFault Bytes
  | [] => .ok []
  | a :: t =>
    if isHexBlank a then ofDigits value? (position + 1) t
    else
      match value? a, t with
      | none, _ => .error ⟨position⟩
      | some _, [] => .error ⟨position + 1⟩
      | some x, b :: rest =>
        match value? b with
        | none => .error ⟨position + 1⟩
        | some y => (ofDigits value? (position + 2) rest).map (UInt8.ofNat (16 * x + y) :: ·)

/-- The bytes of hexadecimal text. What is not ASCII is found before anything else. -/
def ofHex (value? : Char → Option Nat) (t : Text) : Except HexFault Bytes :=
  match t.findIdx? fun c => !(c.toNat < 128) with
  | some n => .error ⟨n⟩
  | none => ofDigits value? 0 t

end OutlineTables.Encoding
