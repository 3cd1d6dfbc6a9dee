import OutlineTables.Proofs.Text.Languages

/-!
The languages of the parts of templates. A part may take exactly those segments at the head of a
text that are words of its language, and it takes the ones that it prefers first.
-/
namespace OutlineTables

open Text

/-- The segments that a placeholder stands for. -/
def Hole.Allows : Hole → Text → Prop
  | .inactiveStamp, w => IsStamp '[' ']' w
  | .activeStamp, w => IsStamp '<' '>' w
  | .inactiveDate, w => IsDateStamp '[' ']' w
  | .activeDate, w => IsDateStamp '<' '>' w
  | .newValue, _ | .oldValue, _ => True
  | .userWord, w => w ≠ [] ∧ ∀ c ∈ w, isBlank c = false
  | .userName, w => w ≠ []

namespace Part

/-- The segments that a part stands for. -/
def Allows : Part → Text → Prop
  | literal c, w => w = [c]
  | blanks, w => w ≠ [] ∧ ∀ c ∈ w, isBlank c = true
  | hole h, w => h.Allows w

/-- Whether a part takes one segment rather than another, where it could take either. Other parts
have no choice. -/
def Prefers : Part → Text → Text → Prop
  | hole .newValue, w, v | hole .oldValue, w, v | hole .userName, w, v => w.length < v.length
  | hole .userWord, w, v | blanks, w, v => v.length < w.length
  | _, _, _ => False

variable {p : Part} {t w v rest : Text}

theorem Prefers.asymm (h : p.Prefers w v) : ¬p.Prefers v w := by
  unfold Prefers at h ⊢
  split at h
  all_goals first
    | exact Nat.lt_asymm h
    | exact h.elim

theorem choices_literal (c : Char) (t : Text) : (literal c).choices t =
    match t with
    | d :: rest => if d = c then [([c], rest)] else []
    | [] => [] := rfl

/-- A part may take the words of its language, whatever follows. -/
theorem mem_choices (hn : '\n' ∉ t) : (w, rest) ∈ p.choices t ↔ p.Allows w ∧ w ++ rest = t := by
  -- Values and names are read up to a line feed, and there is none.
  have hline : w ++ rest = t → ∀ c ∈ w, (decide (c ≠ '\n')) = true := by
    rintro rfl c hc
    exact decide_eq_true fun he => hn (List.mem_append_left _ (he ▸ hc))
  cases p with
  | literal c =>
    rw [choices_literal, Allows]
    constructor
    · intro h
      split at h
      · split at h
        · rename_i hc
          cases List.mem_singleton.mp h
          exact ⟨rfl, congrArg (· :: rest) hc.symm⟩
        · cases h
      · cases h
    · rintro ⟨rfl, rfl⟩
      simp
  | blanks =>
    rw [choices, List.mem_reverse, mem_drop_runs]
    rfl
  | hole h =>
    cases h with
    | inactiveStamp => exact Option.mem_toList.trans stamp?_eq_some_iff
    | activeStamp => exact Option.mem_toList.trans stamp?_eq_some_iff
    | inactiveDate => exact Option.mem_toList.trans (dateStamp?_eq_some_iff (by decide))
    | activeDate => exact Option.mem_toList.trans (dateStamp?_eq_some_iff (by decide))
    | newValue | oldValue =>
      rw [choices, mem_runs]
      exact ⟨fun h => ⟨trivial, h.2⟩, fun h => ⟨hline h.2, h.2⟩⟩
    | userWord =>
      rw [choices, List.mem_reverse, mem_drop_runs]
      simp [Allows, Hole.Allows]
    | userName =>
      rw [choices, mem_drop_runs]
      exact ⟨fun h => ⟨h.1.1, h.2⟩, fun h => ⟨⟨h.1, hline h.2⟩, h.2⟩⟩

/-- The segments that a part may take come in the order of its preference. -/
theorem pairwise_choices (p : Part) (t : Text) :
    (p.choices t).Pairwise fun a b => p.Prefers a.1 b.1 := by
  have htail (q : Char → Bool) : ((runs q t).drop 1).Pairwise fun a b => a.1.length < b.1.length :=
    (pairwise_runs q t).sublist (List.drop_sublist 1 _)
  have hone (x : Option (Text × Text)) (R : Text × Text → Text × Text → Prop) :
      x.toList.Pairwise R := by
    cases x with
    | none => exact List.Pairwise.nil
    | some a => exact List.pairwise_singleton R a
  cases p with
  | literal c =>
    rw [choices_literal]
    split
    · split
      · exact List.pairwise_singleton _ _
      · exact List.Pairwise.nil
    · exact List.Pairwise.nil
  | blanks => exact List.pairwise_reverse.mpr (htail isBlank)
  | hole h =>
    cases h with
    | inactiveStamp | activeStamp => exact hone _ _
    | inactiveDate | activeDate => exact hone _ _
    | newValue | oldValue => exact pairwise_runs _ t
    | userWord => exact List.pairwise_reverse.mpr (htail _)
    | userName => exact htail _

end Part

end OutlineTables
