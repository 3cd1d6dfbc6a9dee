import OutlineTables.Proofs.Text.Readers

/-!
The spelling of templates. A template text falls into placeholders, runs of white space and single
characters in one way only.
-/
namespace OutlineTables

open Text

/-- How a placeholder is written: a percent sign, maybe a minus sign and a width, and its letter. -/
def Hole.IsMark (h : Hole) (w : Text) : Prop :=
  ∃ ds, (∀ c ∈ ds, isDigit c = true) ∧
    (w = '%' :: (ds ++ [h.letter]) ∨ w = '%' :: '-' :: (ds ++ [h.letter]))

theorem Hole.isDigit_letter (h : Hole) : isDigit h.letter = false := by cases h <;> decide

theorem Hole.letter_of_ofLetter? {c : Char} {h : Hole} (hc : ofLetter? c = some h) :
    h.letter = c := by
  simpa using List.find?_some hc

namespace Template

/-- The parts that a template text is made up of: placeholders, whole runs of white space, and the
other characters one by one. -/
inductive Spells : Text → Template → Prop
  | nil : Spells [] []
  | hole {h : Hole} {w t : Text} {ps : Template} (hw : h.IsMark w) (ht : Spells t ps) :
    Spells (w ++ t) (.hole h :: ps)
  | blanks {w t : Text} {ps : Template} (hne : w ≠ []) (hw : ∀ c ∈ w, isBlank c = true)
    (hstop : ∀ c ∈ t.head?, isBlank c = false) (ht : Spells t ps) : Spells (w ++ t) (.blanks :: ps)
  | literal {c : Char} {t : Text} {ps : Template} (hc : isBlank c = false)
    (hmark : ∀ h : Hole, ∀ w, h.IsMark w → ¬w <+: c :: t) (ht : Spells t ps) :
    Spells (c :: t) (.literal c :: ps)

section Hole

variable {t w rest : Text} {h : Hole} {n : Nat}

/-- A width and a letter, `taken` characters behind the percent sign. -/
def widthHole? (taken : Nat) (t : Text) : Option (Hole × Nat) :=
  match t.dropWhile isDigit with
  | c :: rest => (Hole.ofLetter? c).map fun h => (h, taken + t.length - rest.length)
  | [] => none

theorem hole?_dash (t : Text) : hole? ('-' :: t) = widthHole? 1 t := by
  unfold widthHole?
  rw [Nat.add_comm]
  rfl

theorem hole?_plain (ht : t.head? ≠ some '-') : hole? t = widthHole? 0 t := by
  unfold widthHole? hole?
  rw [Nat.zero_add]
  split
  · exact absurd rfl ht
  · rfl

theorem widthHole?_eq_some_iff {taken : Nat} : widthHole? taken t = some (h, n) ↔
    ∃ ds rest, (∀ c ∈ ds, isDigit c = true) ∧ ds ++ h.letter :: rest = t ∧
      n = taken + ds.length + 1 := by
  have hlength (ds rest : Text) : taken + (ds ++ h.letter :: rest).length - rest.length =
      taken + ds.length + 1 := by
    rw [List.length_append, List.length_cons]
    omega
  unfold widthHole?
  constructor
  · intro hh
    split at hh
    · rename_i c rest hdrop
      obtain ⟨h', hc, he⟩ := Option.map_eq_some_iff.mp hh
      cases he
      have hsplit : t.takeWhile isDigit ++ h.letter :: rest = t := by
        rw [Hole.letter_of_ofLetter? hc, ← hdrop, List.takeWhile_append_dropWhile]
      refine ⟨t.takeWhile isDigit, rest, fun c hc => List.mem_takeWhile_imp hc, hsplit, ?_⟩
      rw [← hlength, hsplit]
    · cases hh
  · rintro ⟨ds, rest, hds, rfl, rfl⟩
    rw [(takeWhile_stop hds h.isDigit_letter rest).2]
    dsimp only
    rw [Hole.ofLetter?_letter, Option.map_some, hlength]

/-- What stands behind a percent sign is a placeholder if the two together are one. -/
theorem hole?_eq_some_iff : hole? t = some (h, n) ↔
    ∃ w rest, h.IsMark ('%' :: w) ∧ w ++ rest = t ∧ n = w.length := by
  have hdigit : isDigit '-' = false := by decide
  have hletter : h.letter ≠ '-' := by cases h <;> decide
  constructor
  · intro hh
    by_cases ht : t.head? = some '-'
    · obtain ⟨r, rfl⟩ := List.head?_eq_some_iff.mp ht
      rw [hole?_dash, widthHole?_eq_some_iff] at hh
      obtain ⟨ds, rest, hds, rfl, rfl⟩ := hh
      exact ⟨'-' :: (ds ++ [h.letter]), rest, ⟨ds, hds, Or.inr rfl⟩, by simp, by simp; omega⟩
    · rw [hole?_plain ht, widthHole?_eq_some_iff] at hh
      obtain ⟨ds, rest, hds, rfl, rfl⟩ := hh
      exact ⟨ds ++ [h.letter], rest, ⟨ds, hds, Or.inl rfl⟩, by simp, by simp⟩
  · rintro ⟨w, rest, ⟨ds, hds, hw | hw⟩, rfl, rfl⟩ <;> obtain ⟨-, rfl⟩ := List.cons.inj hw
    · -- Neither a digit nor a letter is taken for the minus sign.
      have hplain : (ds ++ [h.letter] ++ rest).head? ≠ some '-' := by
        cases ds with
        | nil => simpa using hletter
        | cons d ds =>
          intro he
          have hd := hds d List.mem_cons_self
          rw [Option.some.inj he, hdigit] at hd
          cases hd
      rw [hole?_plain hplain, widthHole?_eq_some_iff]
      exact ⟨ds, rest, hds, by simp, by simp⟩
    · rw [List.cons_append, hole?_dash, widthHole?_eq_some_iff]
      exact ⟨ds, rest, hds, by simp, by simp; omega⟩

theorem hole?_eq_none_iff : hole? t = none ↔ ∀ h : Hole, ∀ w, h.IsMark w → ¬w <+: '%' :: t := by
  rw [Option.eq_none_iff_forall_ne_some]
  constructor
  · rintro hnone h w hw ⟨rest, hrest⟩
    have hw' := hw
    obtain ⟨ds, -, he | he⟩ := hw' <;> subst he <;> obtain ⟨-, rfl⟩ := List.cons.inj hrest <;>
      exact hnone _ (hole?_eq_some_iff.mpr ⟨_, rest, hw, rfl, rfl⟩)
  · rintro hnot ⟨h, n⟩ hh
    obtain ⟨w, rest, hw, rfl, -⟩ := hole?_eq_some_iff.mp hh
    exact hnot h _ hw ⟨rest, rfl⟩

end Hole

theorem partsFrom_eq_ofText (n : Nat) (t : Text) : partsFrom n t = ofText (t.drop n) := by
  induction t generalizing n with
  | nil => cases n <;> rfl
  | cons c t ih =>
    cases n with
    | zero => rfl
    | succ n => exact ih n

theorem isBlank_percent : isBlank '%' = false := by decide

theorem ofText_hole {h : Hole} {w : Text} (hw : h.IsMark w) (t : Text) :
    ofText (w ++ t) = .hole h :: ofText t := by
  have hw' := hw
  obtain ⟨ds, -, he⟩ := hw'
  obtain ⟨r, rfl⟩ : ∃ r, w = '%' :: r := by
    rcases he with he | he <;> exact ⟨_, he⟩
  have hread : hole? (r ++ t) = some (h, r.length) :=
    hole?_eq_some_iff.mpr ⟨r, t, hw, rfl, rfl⟩
  rw [List.cons_append, ofText, partsFrom, if_pos rfl, hread]
  dsimp only
  rw [partsFrom_eq_ofText, List.drop_left]

theorem ofText_literal {c : Char} {t : Text} (hc : isBlank c = false)
    (hmark : ∀ h : Hole, ∀ w, h.IsMark w → ¬w <+: c :: t) :
    ofText (c :: t) = .literal c :: ofText t := by
  rw [ofText, partsFrom]
  split
  · rename_i he
    subst he
    rw [hole?_eq_none_iff.mpr hmark]
    rfl
  · rw [hc]
    rfl

theorem ofText_blank {c : Char} (hc : isBlank c = true) (t : Text) :
    ofText (c :: t) = addBlank (ofText t) := by
  have hne : c ≠ '%' := by
    rintro rfl
    exact absurd hc (ne_true_of_eq_false isBlank_percent)
  rw [ofText, partsFrom, if_neg hne, if_pos hc]
  rfl

/-- White space ends where the next part begins, so no other part of white space follows. -/
theorem addBlank_ofText {t : Text} (ht : ∀ c ∈ t.head?, isBlank c = false) :
    addBlank (ofText t) = .blanks :: ofText t := by
  cases t with
  | nil => rfl
  | cons c t =>
    have hc : isBlank c = false := ht c rfl
    rw [ofText, partsFrom]
    split
    · split <;> rfl
    · rw [hc]
      rfl

theorem ofText_blanks {w t : Text} (hne : w ≠ []) (hw : ∀ c ∈ w, isBlank c = true)
    (ht : ∀ c ∈ t.head?, isBlank c = false) : ofText (w ++ t) = .blanks :: ofText t := by
  induction w with
  | nil => exact absurd rfl hne
  | cons c w ih =>
    obtain ⟨hc, hw⟩ := List.forall_mem_cons.mp hw
    rw [List.cons_append, ofText_blank hc]
    cases w with
    | nil => exact addBlank_ofText ht
    | cons d w =>
      rw [ih (List.cons_ne_nil d w) hw]
      rfl

theorem ofText_of_spells {t : Text} {ps : Template} (h : Spells t ps) : ofText t = ps := by
  induction h with
  | nil => rfl
  | hole hw _ ih => rw [ofText_hole hw, ih]
  | blanks hne hw hstop _ ih => rw [ofText_blanks hne hw hstop, ih]
  | literal hc hmark _ ih => rw [ofText_literal hc hmark, ih]

theorem exists_spells (t : Text) : ∃ ps, Spells t ps := by
  -- Induction on the length: each part takes at least one character.
  induction hn : t.length using Nat.strong_induction_on generalizing t with
  | _ n ih =>
    subst hn
    cases t with
    | nil => exact ⟨[], .nil⟩
    | cons c t =>
      by_cases hmark : ∃ h : Hole, ∃ w, h.IsMark w ∧ w <+: c :: t
      · obtain ⟨h, w, hw, rest, hrest⟩ := hmark
        have hlong : 0 < w.length := by
          obtain ⟨ds, -, rfl | rfl⟩ := hw <;> exact Nat.succ_pos _
        obtain ⟨ps, hps⟩ := ih rest.length (by rw [← hrest, List.length_append]; omega) rest rfl
        rw [← hrest]
        exact ⟨_, .hole hw hps⟩
      · by_cases hc : isBlank c = true
        · -- White space is a part up to its end, so that no white space follows it.
          have hsplit := List.takeWhile_append_dropWhile (p := isBlank) (l := t)
          have hshort : (t.dropWhile isBlank).length < (c :: t).length :=
            Nat.lt_succ_of_le (List.dropWhile_sublist isBlank).length_le
          obtain ⟨ps, hps⟩ := ih _ hshort (t.dropWhile isBlank) rfl
          rw [← hsplit, ← List.cons_append]
          refine ⟨_, .blanks (List.cons_ne_nil c _) ?_ ?_ hps⟩
          · exact List.forall_mem_cons.mpr ⟨hc, fun d hd => List.mem_takeWhile_imp hd⟩
          · intro d hd
            have hstop := List.head?_dropWhile_not isBlank t
            rw [Option.mem_def.mp hd] at hstop
            simpa using hstop
        · obtain ⟨ps, hps⟩ := ih t.length (Nat.lt_succ_self _) t rfl
          refine ⟨_, .literal (by simpa using hc) ?_ hps⟩
          exact fun h w hw hp => hmark ⟨h, w, hw, hp⟩

theorem spells_iff {t : Text} {ps : Template} : Spells t ps ↔ ps = ofText t := by
  constructor
  · exact fun h => (ofText_of_spells h).symm
  · rintro rfl
    obtain ⟨ps, hps⟩ := exists_spells t
    rw [ofText_of_spells hps]
    exact hps

end Template

end OutlineTables
