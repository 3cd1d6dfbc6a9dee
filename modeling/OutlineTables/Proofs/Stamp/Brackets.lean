import OutlineTables.Proofs.Logbook.OldStamps
import OutlineTables.Proofs.Stamp.Suffixes
import OutlineTables.Proofs.Text.Languages
import OutlineTables.Proofs.Text.Words

/-!
The brackets of timestamps. A timestamp is a text between two brackets, or two of these with two
hyphens between them, and there are no other brackets in it.
-/
namespace OutlineTables

open Text

namespace Stamp

/-- Nothing that was read of a text up to what is left of it has a bracket. -/
def ReadTo (t rest : Text) : Prop := ∃ u, (∀ c ∈ u, isBracket c = false) ∧ u ++ rest = t

section ReadTo

variable {t u rest : Text}

theorem ReadTo.refl (t : Text) : ReadTo t t := ⟨[], fun _ hc => absurd hc List.not_mem_nil, rfl⟩

theorem ReadTo.trans (h : ReadTo t u) (h' : ReadTo u rest) : ReadTo t rest := by
  obtain ⟨a, ha, rfl⟩ := h
  obtain ⟨b, hb, rfl⟩ := h'
  exact ⟨a ++ b, List.forall_mem_append.mpr ⟨ha, hb⟩, List.append_assoc ..⟩

theorem ReadTo.cons {c : Char} (hc : isBracket c = false) (h : ReadTo t rest) :
    ReadTo (c :: t) rest := by
  obtain ⟨a, ha, rfl⟩ := h
  exact ⟨c :: a, List.forall_mem_cons.mpr ⟨hc, ha⟩, rfl⟩

theorem readTo_dropWhile {p : Char → Bool} (hp : ∀ c, p c = true → isBracket c = false)
    (t : Text) : ReadTo t (t.dropWhile p) :=
  ⟨t.takeWhile p, fun c hc => hp c (List.mem_takeWhile_imp hc), List.takeWhile_append_dropWhile⟩

theorem isBracket_of_isGap {c : Char} (h : isGap c = true) : isBracket c = false := by
  cases hc : isBracket c with
  | false => rfl
  | true => exact absurd h (ne_true_of_eq_false (isGap_of_isBracket hc))

theorem isBracket_of_digit {c : Char} (h : isDigit c = true) : isBracket c = false := by
  cases hc : isBracket c with
  | false => rfl
  | true =>
    simp only [isBracket, Bool.or_eq_true, decide_eq_true_eq] at hc
    rcases hc with ((rfl | rfl) | rfl) | rfl <;> exact absurd h (by decide)

theorem isBracket_of_isDayChar {c : Char} (h : isDayChar c = true) : isBracket c = false :=
  (isDayChar_iff.mp h).2.2.1

theorem readTo_afterGap? (h : afterGap? t = some rest) : ReadTo t rest := by
  unfold afterGap? at h
  split at h
  · cases h
  · split at h
    · rename_i hc
      cases h
      exact (readTo_dropWhile (fun _ => isBracket_of_isGap) _).cons (isBracket_of_isGap hc)
    · cases h

theorem readTo_skipDay (t : Text) : ReadTo t (skipDay t) := by
  unfold skipDay
  split
  · rename_i c cs hgap
    split
    · rename_i hc
      have hday := (readTo_dropWhile (fun _ => isBracket_of_isDayChar) cs).cons
        (isBracket_of_isDayChar hc)
      exact (readTo_afterGap? hgap).trans hday
    · exact ReadTo.refl t
  · exact ReadTo.refl t

theorem readTo_digits? {n : Nat} {ds : Text} (h : digits? n t = some (ds, rest)) :
    ReadTo t rest := by
  obtain ⟨⟨-, hds⟩, happend⟩ := digits?_eq_some_iff.mp h
  exact ⟨ds, fun c hc => isBracket_of_digit (hds c hc), happend⟩

theorem readTo_after? {c : Char} (hc : isBracket c = false) (h : after? [c] t = some rest) :
    ReadTo t rest :=
  ⟨[c], fun _ hd => List.mem_singleton.mp hd ▸ hc, after?_eq_some_iff.mp h⟩

theorem readTo_clock? {c : Text} (h : clock? t = some (c, rest)) : ReadTo t rest := by
  obtain ⟨⟨ds, t₁⟩, hds, h⟩ := Option.bind_eq_some_iff.mp h
  obtain ⟨t₂, ht₂, h⟩ := Option.bind_eq_some_iff.mp h
  obtain ⟨⟨ms, t₃⟩, hms, h⟩ := Option.bind_eq_some_iff.mp h
  cases h
  have hhour : ReadTo t t₁ := by
    rcases Option.or_eq_some_iff.mp hds with hds | ⟨-, hds⟩ <;> exact readTo_digits? hds
  exact hhour.trans ((readTo_after? (by decide) ht₂).trans (readTo_digits? hms))

theorem readTo_clocks (t : Text) : ReadTo t (clocks t).2.2 := by
  unfold clocks
  split
  · exact ReadTo.refl t
  · rename_i start rest hstart
    obtain ⟨u, hgap, hclock⟩ := Option.bind_eq_some_iff.mp hstart
    have hfirst := (readTo_afterGap? hgap).trans (readTo_clock? hclock)
    split
    · exact hfirst
    · rename_i finish rest' hfinish
      obtain ⟨u', hdash, hclock'⟩ := Option.bind_eq_some_iff.mp hfinish
      exact hfirst.trans ((readTo_after? (by decide) hdash).trans (readTo_clock? hclock'))

end ReadTo

/-- A date and any text without brackets, between two of them. -/
def IsBracketed (w : Written) (t : Text) : Prop :=
  ∃ d inside, t = w.openMark :: (d ++ inside) ++ [w.closeMark] ∧ IsDate d ∧
    (∀ c ∈ inside, isBracket c = false) ∧ (w.openMark = '<' ∨ w.openMark = '[') ∧
    (w.closeMark = '>' ∨ w.closeMark = ']')

theorem isBracketed_of_written? {t rest : Text} {w : Written} (h : written? t = some (w, rest)) :
    ∃ s, IsBracketed w s ∧ s ++ rest = t := by
  unfold written? at h
  split at h
  · cases h
  · split at h
    · rename_i o t hopen
      obtain ⟨⟨d, t₁⟩, hd, h⟩ := Option.bind_eq_some_iff.mp h
      obtain ⟨hdate, hsplit⟩ := date?_eq_some_iff.mp hd
      dsimp only at h
      split at h
      · rename_i c rest' hdrop
        split at h
        · rename_i hclose
          -- Day, times and suffix are read one after the other, none of them beyond a bracket.
          have hread := (readTo_skipDay t₁).trans ((readTo_clocks (skipDay t₁)).trans
            (readTo_dropWhile (p := (!isBracket ·)) (by simp) _))
          rw [hdrop] at hread
          obtain ⟨inside, hinside, hrest⟩ := hread
          cases h
          refine ⟨o :: (d ++ inside) ++ [c], ⟨d, inside, rfl, hdate, hinside, by simpa using hopen,
            by simpa using hclose⟩, ?_⟩
          rw [← hsplit, ← hrest]
          simp
        · cases h
      · cases h
    · cases h

/-- One text in brackets, or two with two hyphens between them. -/
theorem isBracketed_of_writtenRange? {t : Text} {a : Written} {b : Option Written}
    (h : writtenRange? t = some (a, b)) : ∃ s, IsBracketed a s ∧ (b = none ∧ t = s ∨
      ∃ b' s', b = some b' ∧ IsBracketed b' s' ∧ t = s ++ ['-', '-'] ++ s') := by
  obtain ⟨⟨a', rest⟩, ha, hb⟩ := Option.bind_eq_some_iff.mp h
  obtain ⟨s, hs, hsplit⟩ := isBracketed_of_written? ha
  dsimp only at hb
  split at hb
  · rename_i hempty
    cases hb
    exact ⟨s, hs, Or.inl ⟨rfl, by rw [← hsplit, List.isEmpty_iff.mp hempty, List.append_nil]⟩⟩
  · obtain ⟨⟨b', rest'⟩, hb', hb⟩ := Option.bind_eq_some_iff.mp hb
    obtain ⟨t', hdash, hb'⟩ := Option.bind_eq_some_iff.mp hb'
    dsimp only at hb
    split at hb
    · rename_i hempty
      cases hb
      obtain ⟨s', hs', hsplit'⟩ := isBracketed_of_written? hb'
      refine ⟨s, hs, Or.inr ⟨b', s', rfl, hs', ?_⟩⟩
      rw [← hsplit, ← after?_eq_some_iff.mp hdash, ← hsplit', List.isEmpty_iff.mp hempty,
        List.append_nil, List.append_assoc]
    · cases hb

section Brackets

variable {w : Written} {t : Text} {s : Stamp}

theorem isBracket_of_isDate {d : Text} (hd : IsDate d) : ∀ c ∈ d, isBracket c = false := by
  obtain ⟨y, m, n, rfl, -, hdigits⟩ := hd
  intro c hc
  have hmem : c ∈ y ++ m ++ n ∨ c = '-' := by
    simp only [List.mem_append, List.mem_cons] at hc ⊢
    tauto
  rcases hmem with hc | rfl
  · exact isBracket_of_digit (hdigits c hc)
  · decide

theorem isBlank_of_isBracket {c : Char} (h : isBracket c = true) : isBlank c = false := by
  simp only [isBracket, Bool.or_eq_true, decide_eq_true_eq] at h
  rcases h with ((rfl | rfl) | rfl) | rfl <;> decide

theorem IsBracketed.marks (h : IsBracketed w t) :
    isBracket w.openMark = true ∧ isBracket w.closeMark = true := by
  obtain ⟨-, -, -, -, -, ho, hc⟩ := h
  constructor
  · rcases ho with ho | ho <;> rw [ho] <;> rfl
  · rcases hc with hc | hc <;> rw [hc] <;> rfl

theorem IsBracketed.strip_eq (h : IsBracketed w t) : strip t = t := by
  obtain ⟨ho, hc⟩ := h.marks
  obtain ⟨d, inside, rfl, -⟩ := h
  exact strip_framed (isBlank_of_isBracket ho) (isBlank_of_isBracket hc) (d ++ inside)

/-- A single inactive timestamp on one line is one that templates find. -/
theorem isStamp_of_decode (hw : writtenRange? t = some (w, none)) (hs : decode t = .ok s)
    (hinactive : s.active = false) (hline : '\n' ∉ t) : IsStamp '[' ']' t := by
  obtain ⟨u, hu, ⟨-, rfl⟩ | ⟨b, -, hnone, -⟩⟩ := isBracketed_of_writtenRange? hw
  · obtain ⟨a, b, start, finish, p, hw', hclosed, -, -, -, rfl⟩ := exists_of_decode hs
    rw [hu.strip_eq, hw] at hw'
    cases hw'
    obtain ⟨d, inside, rfl, hd, hinside, ho, -⟩ := hu
    have ho' : w.openMark = '[' := ho.resolve_left (by simpa using hinactive)
    have hc' : w.closeMark = ']' := by
      rw [← hclosed, ho']
      rfl
    rw [ho', hc'] at hline ⊢
    refine ⟨d, inside, rfl, hd, fun c hc => ⟨?_, ?_⟩⟩
    · rintro rfl
      exact absurd (hinside _ hc) (by decide)
    · rintro rfl
      apply hline
      simp [hc]
  · cases hnone

/-- Of the square brackets that open something, only the first one is in a text in brackets. -/
theorem IsBracketed.split (h : IsBracketed w t) {rest pre post : Text}
    (hp : t ++ rest = pre ++ '[' :: post) :
    pre = [] ∨ ∃ pre', pre = t ++ pre' ∧ rest = pre' ++ '[' :: post := by
  obtain ⟨d, inside, rfl, hd, hinside, -, hclose⟩ := h
  cases pre with
  | nil => exact Or.inl rfl
  | cons c pre =>
    right
    have hnone : '[' ∉ d ++ inside ++ [w.closeMark] := by
      simp only [List.mem_append, List.mem_singleton, not_or]
      refine ⟨⟨fun hm => ?_, fun hm => ?_⟩, ?_⟩
      · exact absurd (isBracket_of_isDate hd _ hm) (by decide)
      · exact absurd (hinside _ hm) (by decide)
      · rcases hclose with hc | hc <;> rw [hc] <;> decide
    obtain ⟨rfl, htail⟩ := List.cons.inj hp
    obtain ⟨pre', rfl, hrest⟩ := append_split hnone htail
    exact ⟨pre', rfl, hrest⟩

/-- The only square bracket that opens something in a text in brackets is at its head. -/
theorem IsBracketed.head (h : IsBracketed w t) {pre post : Text} (hp : t = pre ++ '[' :: post) :
    pre = [] := by
  have hall : t ++ [] = pre ++ '[' :: post := by rw [List.append_nil, hp]
  rcases h.split hall with hnil | ⟨pre', -, hempty⟩
  · exact hnil
  · simp at hempty

/-- A square bracket opens a timestamp at the head or behind a hyphen. -/
theorem before_bracket {a : Written} {b : Option Written} (hw : writtenRange? t = some (a, b))
    {pre post : Text} (hp : t = pre ++ '[' :: post) : pre = [] ∨ pre.getLast? = some '-' := by
  obtain ⟨u, hu, ⟨-, rfl⟩ | ⟨b', u', -, hu', rfl⟩⟩ := isBracketed_of_writtenRange? hw
  · exact Or.inl (hu.head hp)
  · rw [List.append_assoc] at hp
    rcases hu.split hp with rfl | ⟨pre', rfl, hrest⟩
    · exact Or.inl rfl
    · -- The second text in brackets follows the hyphens.
      obtain ⟨pre'', rfl, hsecond⟩ := append_split (by decide) hrest
      obtain rfl := hu'.head hsecond
      right
      simp

theorem head_of_writtenRange? {a : Written} {b : Option Written}
    (hw : writtenRange? t = some (a, b)) : ∃ c rest, t = c :: rest ∧ isBracket c = true := by
  obtain ⟨u, hu, ⟨-, rfl⟩ | ⟨b', u', -, -, rfl⟩⟩ := isBracketed_of_writtenRange? hw
  · obtain ⟨ho, -⟩ := hu.marks
    obtain ⟨d, inside, rfl, -⟩ := hu
    exact ⟨_, _, rfl, ho⟩
  · obtain ⟨ho, -⟩ := hu.marks
    obtain ⟨d, inside, rfl, -⟩ := hu
    exact ⟨_, _, rfl, ho⟩

end Brackets

end Stamp

end OutlineTables
