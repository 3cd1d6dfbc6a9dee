/-!
Text as a list of code points, with the cuts and trims that every reader of this library uses.
-/
namespace OutlineTables

/-- Text as a list of code points, so that positions count code points. -/
abbrev Text := List Char

namespace Text

/-- Space and tab, the only characters that indent a line or separate its parts. -/
def isGap (c : Char) : Bool := c = ' ' || c = '\t'

/-- The text without its longest run of `p` at the end. -/
def trimEnd (p : Char → Bool) (t : Text) : Text := (t.reverse.dropWhile p).reverse

/-- The text without its longest runs of `p` at both ends. -/
def trim (p : Char → Bool) (t : Text) : Text := trimEnd p (t.dropWhile p)

/-- The pieces between the occurrences of `sep`; there is always at least one. -/
def pieces (sep : Char) : Text → List Text
  | [] => [[]]
  | c :: cs =>
    if c = sep then [] :: pieces sep cs
    else
      match pieces sep cs with
      | [] => [[c]]
      | p :: ps => (c :: p) :: ps

/-- The nonempty pieces between the characters of the class `p`. -/
def words (p : Char → Bool) : Text → List Text
  | [] => []
  | c :: cs =>
    if p c then words p cs
    else
      match cs, words p cs with
      | d :: _, w :: ws => if p d then [c] :: w :: ws else (c :: w) :: ws
      | _, ws => [c] :: ws

/-- The pieces with `sep` between neighbours. -/
def join (sep : Text) : List Text → Text
  | [] => []
  | [p] => p
  | p :: q :: ps => p ++ sep ++ join sep (q :: ps)

/-- What follows `lead`, if the text begins with it. -/
def after? : Text → Text → Option Text
  | [], t => some t
  | _ :: _, [] => none
  | l :: ls, c :: cs => if l = c then after? ls cs else none

/-- Whether `part` occurs somewhere in the text. -/
def hasPart (part : Text) : Text → Bool
  | [] => part.isEmpty
  | c :: cs => (after? part (c :: cs)).isSome || hasPart part cs

/-- What stands before and after the first `sep`; without one, the whole text and nothing. -/
def cutAt (sep : Char) : Text → Text × Text
  | [] => ([], [])
  | c :: cs =>
    if c = sep then ([], cs)
    else
      let (a, b) := cutAt sep cs
      (c :: a, b)

/-- Whether the text is one of several. -/
def isIn (t : Text) (ts : List Text) : Bool := ts.any (· = t)

@[simp]
theorem isIn_iff {t : Text} {ts : List Text} : t.isIn ts = true ↔ t ∈ ts := by
  simp [isIn]

@[simp]
theorem isIn_eq_false_iff {t : Text} {ts : List Text} : t.isIn ts = false ↔ t ∉ ts := by
  rw [← isIn_iff, Bool.not_eq_true]

/-- Texts in the order of their code points; the beginning of a text comes before it. -/
def le : Text → Text → Bool
  | [], _ => true
  | _ :: _, [] => false
  | a :: s, b :: t => if a = b then le s t else Nat.blt a.toNat b.toNat

/-- The text with every `old` followed by a second one. -/
def double (old : Char) : Text → Text
  | [] => []
  | c :: cs => if c = old then c :: c :: double old cs else c :: double old cs

/-- Decimal digits of a natural number. -/
def ofNat (n : Nat) : Text := Nat.toDigits 10 n

/-- Decimal digits of an integer, with a minus sign if it is negative. -/
def ofInt : Int → Text
  | .ofNat n => ofNat n
  | .negSucc n => '-' :: ofNat (n + 1)

end Text

end OutlineTables
