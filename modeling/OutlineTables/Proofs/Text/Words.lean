import Mathlib.Data.List.DropRight
import OutlineTables.Proofs.Text.Numbers
import OutlineTables.Text.Blank

/-!
Texts taken apart into what they were put together from: words with white space between them, and
what stands before and behind a separator. White space is only trimmed where there is some.
-/
namespace OutlineTables

namespace Text

section Words

variable {p : Char → Bool} {c d : Char} {w : Text}

theorem words_cons_of_pos (hc : p c = true) (t : Text) : words p (c :: t) = words p t := by
  rw [words.eq_def]
  exact if_pos hc

/-- A word of one character. -/
theorem words_cons_stop (hc : p c = false) (hd : p d = true) (t : Text) :
    words p (c :: d :: t) = [c] :: words p (d :: t) := by
  rw [words.eq_def]
  dsimp only
  rw [if_neg (ne_true_of_eq_false hc)]
  split
  · rename_i h hws
    cases h
    rw [if_pos hd, hws]
  · rfl

/-- A word goes on with the word that follows its first character. -/
theorem words_cons_go {v : Text} {vs : List Text} (hc : p c = false) (hd : p d = false)
    {t : Text} (ht : words p (d :: t) = v :: vs) : words p (c :: d :: t) = (c :: v) :: vs := by
  rw [words.eq_def]
  dsimp only
  rw [if_neg (ne_true_of_eq_false hc), ht]
  exact if_neg (ne_true_of_eq_false hd)

theorem words_of_plain (hne : w ≠ []) (h : ∀ c ∈ w, p c = false) : words p w = [w] := by
  induction w with
  | nil => exact absurd rfl hne
  | cons c cs ih =>
    obtain ⟨hc, hcs⟩ := List.forall_mem_cons.mp h
    cases cs with
    | nil => simp [words, hc]
    | cons d ds =>
      have hrest : words p (d :: ds) = [d :: ds] := ih (List.cons_ne_nil d ds) hcs
      exact words_cons_go hc (hcs d List.mem_cons_self) hrest

/-- A word ends where the first separator stands. -/
theorem words_append (hne : w ≠ []) (h : ∀ c ∈ w, p c = false) (hd : p d = true) (t : Text) :
    words p (w ++ d :: t) = w :: words p t := by
  induction w with
  | nil => exact absurd rfl hne
  | cons c cs ih =>
    obtain ⟨hc, hcs⟩ := List.forall_mem_cons.mp h
    cases cs with
    | nil => rw [List.cons_append, List.nil_append, words_cons_stop hc hd, words_cons_of_pos hd]
    | cons e es =>
      have hrest : words p (e :: es ++ d :: t) = (e :: es) :: words p t :=
        ih (List.cons_ne_nil e es) hcs
      exact words_cons_go hc (hcs e List.mem_cons_self) hrest

end Words

/-- A text with no white space at its ends is left as it is. -/
theorem strip_framed {c d : Char} (hc : isBlank c = false) (hd : isBlank d = false) (t : Text) :
    strip (c :: (t ++ [d])) = c :: (t ++ [d]) := by
  rw [strip, trim, List.dropWhile_cons_of_neg (ne_true_of_eq_false hc)]
  exact List.rdropWhile_concat_neg isBlank (c :: t) d (ne_true_of_eq_false hd)

section Cut

variable {sep : Char} {w : Text}

theorem cutAt_of_not_mem (h : sep ∉ w) : cutAt sep w = (w, []) := by
  induction w with
  | nil => rfl
  | cons c cs ih =>
    rw [List.mem_cons, not_or] at h
    rw [cutAt, if_neg (Ne.symm h.1), ih h.2]

theorem cutAt_append (h : sep ∉ w) (t : Text) : cutAt sep (w ++ sep :: t) = (w, t) := by
  induction w with
  | nil => exact if_pos rfl
  | cons c cs ih =>
    rw [List.mem_cons, not_or] at h
    rw [List.cons_append, cutAt, if_neg (Ne.symm h.1), ih h.2]

end Cut

theorem isBlank_of_isDigit {c : Char} (h : c.isDigit = true) : isBlank c = false := by
  have hrange : 48 ≤ c.toNat ∧ c.toNat ≤ 57 := by
    simpa [Char.isDigit, UInt32.le_iff_toNat_le] using h
  have hall : ∀ k : Fin 10, CodePoints.within (48 + k) blankMarks = false := by decide
  have hk : 48 + (c.toNat - 48) = c.toNat := by omega
  have hdigit := hall ⟨c.toNat - 48, by omega⟩
  rw [hk] at hdigit
  exact hdigit

end Text

end OutlineTables
