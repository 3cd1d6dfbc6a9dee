import OutlineTables.Text.Basic
import OutlineTables.Text.CodePoints

/-!
White space: the characters that separate words and that trimming removes.
-/
namespace OutlineTables.Text

/-- Characters with the bidirectional class of a space or separator, or in the category `Zs`. -/
def blankMarks : List Nat :=
  [
  9, 14, 28, 33, 133, 134, 160, 161, 5760, 5761, 8192, 8203,
  8232, 8234, 8239, 8240, 8287, 8288, 12288, 12289]

/-- White space in the sense of Unicode, with the four separators U+001C to U+001F. -/
def isBlank (c : Char) : Bool := CodePoints.within c.toNat blankMarks

/-- The text without white space at both ends. -/
def strip (t : Text) : Text := trim isBlank t

/-- The text without white space at its end. -/
def stripEnd (t : Text) : Text := trimEnd isBlank t

/-- Nothing but white space. -/
def isBlankLine (t : Text) : Bool := t.all isBlank

theorem isBlank_of_isGap {c : Char} (h : isGap c = true) : isBlank c = true := by
  simp only [isGap, Bool.or_eq_true, decide_eq_true_eq] at h
  rcases h with h | h <;> subst h <;> decide

end OutlineTables.Text
