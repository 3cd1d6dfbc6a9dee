import OutlineTables.Text.Encoding
import OutlineTables.Text.Quoted

/-!
The MD5 digest, as 32 hexadecimal digits.
-/
namespace OutlineTables.Md5

open Encoding (Bytes)

/-- The four words of the running digest. -/
structure State where
  a : UInt32
  b : UInt32
  c : UInt32
  d : UInt32

def start : State := ⟨0x67452301, 0xefcdab89, 0x98badcfe, 0x10325476⟩

/-- Shifts of the four steps of a group, for each of the four rounds. -/
def shifts : List (List UInt32) :=
  [[7, 12, 17, 22], [5, 9, 14, 20], [4, 11, 16, 23], [6, 10, 15, 21]]

/-- The integer parts of `2 ^ 32 * |sin i|` for `i` from 1 to 64. -/
def sines : List UInt32 := [
  0xd76aa478, 0xe8c7b756, 0x242070db, 0xc1bdceee, 0xf57c0faf, 0x4787c62a, 0xa8304613, 0xfd469501,
  0x698098d8, 0x8b44f7af, 0xffff5bb1, 0x895cd7be, 0x6b901122, 0xfd987193, 0xa679438e, 0x49b40821,
  0xf61e2562, 0xc040b340, 0x265e5a51, 0xe9b6c7aa, 0xd62f105d, 0x02441453, 0xd8a1e681, 0xe7d3fbc8,
  0x21e1cde6, 0xc33707d6, 0xf4d50d87, 0x455a14ed, 0xa9e3e905, 0xfcefa3f8, 0x676f02d9, 0x8d2a4c8a,
  0xfffa3942, 0x8771f681, 0x6d9d6122, 0xfde5380c, 0xa4beea44, 0x4bdecfa9, 0xf6bb4b60, 0xbebfbc70,
  0x289b7ec6, 0xeaa127fa, 0xd4ef3085, 0x04881d05, 0xd9d4d039, 0xe6db99e5, 0x1fa27cf8, 0xc4ac5665,
  0xf4292244, 0x432aff97, 0xab9423a7, 0xfc93a039, 0x655b59c3, 0x8f0ccc92, 0xffeff47d, 0x85845dd1,
  0x6fa87e4f, 0xfe2ce6e0, 0xa3014314, 0x4e0811a1, 0xf7537e82, 0xbd3af235, 0x2ad7d2bb, 0xeb86d391]

def rotateLeft (x s : UInt32) : UInt32 := (x <<< s) ||| (x >>> (32 - s))

def mix (round : Nat) (b c d : UInt32) : UInt32 :=
  match round with
  | 0 => (b &&& c) ||| (~~~b &&& d)
  | 1 => (d &&& b) ||| (~~~d &&& c)
  | 2 => b ^^^ c ^^^ d
  | _ => c ^^^ (b ||| ~~~d)

/-- The word of the block that step `i` uses. -/
def wordIndex (i : Nat) : Nat :=
  match i / 16 with
  | 0 => i
  | 1 => (5 * i + 1) % 16
  | 2 => (3 * i + 5) % 16
  | _ => 7 * i % 16

def step (words : List UInt32) (s : State) (i : Nat) (k : UInt32) : State :=
  let shift := ((shifts[i / 16]?).bind (·[i % 4]?)).getD 0
  let x := s.a + mix (i / 16) s.b s.c s.d + k + words.getD (wordIndex i) 0
  ⟨s.d, s.b + rotateLeft x shift, s.b, s.c⟩

def steps (words : List UInt32) : State → Nat → List UInt32 → State
  | s, _, [] => s
  | s, i, k :: ks => steps words (step words s i k) (i + 1) ks

def block (s : State) (words : List UInt32) : State :=
  let t := steps words s 0 sines
  ⟨s.a + t.a, s.b + t.b, s.c + t.c, s.d + t.d⟩

/-- Words of four bytes, the low byte first. -/
def wordsOf : Bytes → List UInt32
  | a :: b :: c :: d :: rest =>
    (a.toUInt32 ||| b.toUInt32 <<< 8 ||| c.toUInt32 <<< 16 ||| d.toUInt32 <<< 24) :: wordsOf rest
  | _ => []

def littleEndian : Nat → Nat → Bytes
  | 0, _ => []
  | width + 1, n => UInt8.ofNat (n % 256) :: littleEndian width (n / 256)

/-- The message, a one bit, zeros up to a multiple of 64 bytes, and the length in bits. -/
def padded (message : Bytes) : Bytes :=
  let n := message.length
  message ++ 0x80 :: List.replicate ((119 - n % 64) % 64) 0 ++ littleEndian 8 (8 * n)

/-- The digest after the first `count` blocks of 16 words. -/
def blocks : Nat → State → List UInt32 → State
  | 0, s, _ => s
  | count + 1, s, words => blocks count (block s (words.take 16)) (words.drop 16)

def hexByte (b : UInt8) : Text := Text.hex 2 b.toNat

/-- The digest of a sequence of bytes. -/
def digest (message : Bytes) : Text :=
  let words := wordsOf (padded message)
  let s := blocks (words.length / 16) start words
  [s.a, s.b, s.c, s.d].flatMap fun w => (littleEndian 4 w.toNat).flatMap hexByte

end OutlineTables.Md5
