import OutlineTables.Proofs.Text.Readers

/-!
Places in a text, counted in the characters before them. What is trimmed stands in the text behind
the white space that was in front of it.
-/
namespace OutlineTables

namespace Text

/-- `w` stands in the text behind its first `n` characters. -/
def Has (t : Text) (n : Nat) (w : Text) : Prop :=
  ∃ before after, before ++ w ++ after = t ∧ before.length = n

/-- The number of white space characters that the text begins with. -/
def lead (t : Text) : Nat := (t.takeWhile isBlank).length

variable {t u w : Text} {n m : Nat}

theorem Has.trans (h : t.Has n u) (h' : u.Has m w) : t.Has (n + m) w := by
  obtain ⟨before, after, rfl, rfl⟩ := h
  obtain ⟨before', after', rfl, rfl⟩ := h'
  refine ⟨before ++ before', after' ++ after, ?_, List.length_append⟩
  simp only [List.append_assoc]

theorem has_of_prefix (h : w <+: t) : t.Has 0 w := by
  obtain ⟨after, rfl⟩ := h
  exact ⟨[], after, rfl, rfl⟩

theorem Has.lt_length (h : t.Has n w) (hw : w ≠ []) : n < t.length := by
  obtain ⟨before, after, rfl, rfl⟩ := h
  have hpos := List.length_pos_iff.mpr hw
  rw [List.length_append, List.length_append]
  omega

/-- A place in what follows a text is further back in the whole. -/
theorem Has.behind (h : t.Has n w) (front : Text) : (front ++ t).Has (front.length + n) w := by
  have hfront : (front ++ t).Has front.length t := ⟨front, [], List.append_nil _, rfl⟩
  exact hfront.trans h

theorem has_strip (t : Text) : t.Has (lead t) (strip t) := by
  obtain ⟨after, hafter⟩ := List.rdropWhile_prefix isBlank (t.dropWhile isBlank)
  refine ⟨t.takeWhile isBlank, after, ?_, rfl⟩
  calc t.takeWhile isBlank ++ strip t ++ after
      = t.takeWhile isBlank ++ ((t.dropWhile isBlank).rdropWhile isBlank ++ after) :=
        List.append_assoc ..
    _ = t := by rw [hafter, List.takeWhile_append_dropWhile]

/-- Nothing behind a character that is no white space counts as white space in front. -/
theorem lead_append_cons {c : Char} (hc : isBlank c = false) (t rest : Text) :
    lead (t ++ c :: rest) = lead t := by
  unfold lead
  induction t with
  | nil => rw [List.nil_append, List.takeWhile_cons_of_neg (by simp [hc]), List.takeWhile_nil]
  | cons d t ih =>
    rw [List.cons_append]
    by_cases hd : isBlank d = true
    · rw [List.takeWhile_cons_of_pos hd, List.takeWhile_cons_of_pos hd, List.length_cons, ih,
        List.length_cons]
    · rw [List.takeWhile_cons_of_neg hd, List.takeWhile_cons_of_neg hd]

/-- A character that is not in the front of a text stands behind it. -/
theorem append_split {x : Char} {as bs pre post : Text} (hx : x ∉ as)
    (h : as ++ bs = pre ++ x :: post) : ∃ pre', pre = as ++ pre' ∧ bs = pre' ++ x :: post := by
  rcases List.append_eq_append_iff.mp h with ⟨pre', hpre, hbs⟩ | ⟨as', has, hpost⟩
  · exact ⟨pre', hpre, hbs⟩
  · cases as' with
    | nil => exact ⟨[], by simpa using has.symm, hpost.symm⟩
    | cons c as' =>
      obtain ⟨rfl, -⟩ := List.cons.inj hpost
      exact absurd (by simp [has]) hx

/-- A text does not stand in front of the first place of its first character. -/
theorem Has.length_le {front : Text} {c : Char} (h : (front ++ t).Has n (c :: w))
    (hc : c ∉ front) : front.length ≤ n := by
  obtain ⟨before, after, hsplit, rfl⟩ := h
  rw [List.append_assoc, List.cons_append] at hsplit
  obtain ⟨behind, rfl, -⟩ := append_split hc hsplit.symm
  rw [List.length_append]
  omega

end Text

end OutlineTables
