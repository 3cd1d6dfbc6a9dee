import OutlineTables.Text.Basic

/-!
Texts cut at a character and joined again.
-/
namespace OutlineTables

namespace Text

variable {sep : Char}

theorem pieces_ne_nil (sep : Char) (t : Text) : pieces sep t ≠ [] := by
  cases t with
  | nil => simp [pieces]
  | cons c cs =>
    unfold pieces
    split
    · simp
    · split <;> simp

/-- A piece does not hold the character that it is cut at. -/
theorem not_mem_piece {t p : Text} (h : p ∈ pieces sep t) : sep ∉ p := by
  induction t generalizing p with
  | nil =>
    rw [pieces, List.mem_singleton] at h
    simp [h]
  | cons c cs ih =>
    unfold pieces at h
    split at h
    · rcases List.mem_cons.mp h with rfl | h
      · simp
      · exact ih h
    · rename_i hc
      split at h
      · rw [List.mem_singleton] at h
        simpa [h] using Ne.symm hc
      · rename_i q qs hq
        rcases List.mem_cons.mp h with rfl | h
        · have hm : sep ∉ q := ih (hq ▸ List.mem_cons_self)
          simpa [hm] using Ne.symm hc
        · exact ih (hq ▸ List.mem_cons_of_mem _ h)

theorem pieces_of_not_mem {t : Text} (h : sep ∉ t) : pieces sep t = [t] := by
  induction t with
  | nil => rfl
  | cons c cs ih =>
    rw [List.mem_cons, not_or] at h
    unfold pieces
    rw [if_neg (Ne.symm h.1), ih h.2]

theorem pieces_append {p : Text} (h : sep ∉ p) (t : Text) :
    pieces sep (p ++ sep :: t) = p :: pieces sep t := by
  induction p with
  | nil => simp [pieces]
  | cons c cs ih =>
    rw [List.mem_cons, not_or] at h
    rw [List.cons_append, pieces, if_neg (Ne.symm h.1), ih h.2]

/-- The pieces of two texts that stand on both sides of a cut. -/
theorem pieces_append_cut (t u : Text) :
    pieces sep (t ++ sep :: u) = pieces sep t ++ pieces sep u := by
  induction t with
  | nil => simp [pieces]
  | cons c cs ih =>
    rw [List.cons_append, pieces, pieces, ih]
    split
    · rfl
    · cases hp : pieces sep cs with
      | nil => exact absurd hp (pieces_ne_nil sep cs)
      | cons p ps => rfl

theorem pieces_join {ps : List Text} (hne : ps ≠ []) (h : ∀ p ∈ ps, sep ∉ p) :
    pieces sep (join [sep] ps) = ps := by
  induction ps with
  | nil => exact absurd rfl hne
  | cons p ps ih =>
    have hp := h p List.mem_cons_self
    cases ps with
    | nil => exact pieces_of_not_mem hp
    | cons q ps =>
      have hrest := ih (List.cons_ne_nil q ps) fun a ha => h a (List.mem_cons_of_mem _ ha)
      rw [join, List.append_assoc, List.singleton_append, pieces_append hp, hrest]

theorem join_cons {p : Text} {ps : List Text} (hne : ps ≠ []) (sep : Text) :
    join sep (p :: ps) = p ++ sep ++ join sep ps := by
  cases ps with
  | nil => exact absurd rfl hne
  | cons q ps => rfl

theorem join_pieces (sep : Char) (t : Text) : join [sep] (pieces sep t) = t := by
  induction t with
  | nil => rfl
  | cons c cs ih =>
    unfold pieces
    split
    · rename_i hc
      rw [join_cons (pieces_ne_nil sep cs), ih, hc]
      rfl
    · split
      · rename_i h
        exact absurd h (pieces_ne_nil sep cs)
      · rename_i p ps h
        rw [h] at ih
        cases ps with
        | nil =>
          rw [← ih]
          rfl
        | cons q ps =>
          rw [← ih]
          rfl

end Text

end OutlineTables
