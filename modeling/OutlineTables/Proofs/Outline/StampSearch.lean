import OutlineTables.Proofs.Outline.Positions
import OutlineTables.Proofs.Stamp.Closing

/-!
The search for timestamps in a line. Main statement: in a line that is put together from timestamps
and other texts between them, just these timestamps are found, each where it stands.
-/
namespace OutlineTables

namespace Text

section Scan

variable {α : Type} {read? : Text → Option α} {size : α → Nat} {t w u : Text} {pos : Int}

/-- Nothing is found in a text where no occurrence begins. -/
theorem scan_append_of_none (h : ∀ c ∈ t, ∀ u, read? (c :: u) = none) :
    scan read? size pos 0 (t ++ u) = scan read? size (pos + t.length) 0 u := by
  induction t generalizing pos with
  | nil => simp
  | cons c t ih =>
    obtain ⟨hc, ht⟩ := List.forall_mem_cons.mp h
    rw [List.cons_append, scan, hc]
    dsimp only
    rw [ih ht, List.length_cons]
    congr 1
    omega

theorem scan_skipped (w : Text) :
    scan read? size pos w.length (w ++ u) = scan read? size (pos + w.length) 0 u := by
  induction w generalizing pos with
  | nil => simp
  | cons c w ih =>
    rw [List.cons_append, List.length_cons, scan, ih]
    congr 1
    omega

/-- Behind an occurrence the search goes on with what follows it. -/
theorem scan_append_of_some {a : α} (hw : w ≠ []) (h : read? (w ++ u) = some a)
    (hsize : size a = w.length) :
    scan read? size pos 0 (w ++ u) = (pos, a) :: scan read? size (pos + w.length) 0 u := by
  obtain ⟨c, w, rfl⟩ := List.exists_cons_of_ne_nil hw
  rw [List.cons_append] at h ⊢
  rw [scan, h]
  dsimp only
  rw [hsize, List.length_cons, Nat.add_sub_cancel, scan_skipped]
  congr 2
  omega

end Scan

end Text

namespace Stamp

open Text

theorem stampToken?_eq_none {c : Char} (hc : ¬IsOpening c) (t : Text) :
    stampToken? (c :: t) = none := by
  unfold IsOpening at hc
  rw [not_or] at hc
  simp [stampToken?, stampRange?, stamp?, after?, Ne.symm hc.1, Ne.symm hc.2]

variable {active : Bool} {t w rest : Text}

theorem isStamp_of_isClosed (h : IsClosed active w) (hline : '\n' ∉ w) :
    IsStamp (Form.openMark active) (Form.closeMark active) w := by
  obtain ⟨inside, rfl, hinside⟩ := h
  have hclose := not_mem_inside hinside (Form.isBracket_closeMark active)
  obtain ⟨d, more, rfl, hd, -⟩ := hinside
  refine ⟨d, more, by simp [framed], hd, fun c hc => ⟨?_, ?_⟩⟩
  · rintro rfl
    exact hclose (List.mem_append_right d hc)
  · rintro rfl
    exact hline (by simp [framed, hc])

/-- One stamp or a range, read from the head of a text that does not go on with a second one. -/
theorem stampRange?_append (h : WellBracketed active w) (hline : '\n' ∉ w)
    (hrest : ∀ c u, rest = '-' :: '-' :: c :: u → ¬IsOpening c) :
    stampRange? (Form.openMark active) (Form.closeMark active) (w ++ rest) = some w := by
  rcases h with h | ⟨a, b, ha, hb, rfl⟩
  · have hread := stamp?_eq_some_iff.mpr ⟨isStamp_of_isClosed h hline, Eq.refl (w ++ rest)⟩
    have hnone : (after? ['-', '-'] rest).bind
        (stamp? (Form.openMark active) (Form.closeMark active)) = none := by
      rw [Option.bind_eq_none_iff]
      intro u hu
      cases u with
      | nil => simp [stamp?, after?]
      | cons c u =>
        have hc := hrest c u (after?_eq_some_iff.mp hu).symm
        have hne : Form.openMark active ≠ c := by
          rintro rfl
          exact hc (isOpening_openMark active)
        simp [stamp?, after?, hne]
    unfold stampRange?
    rw [hread]
    simp only [Option.bind_eq_bind, Option.bind_some]
    rw [hnone]
  · have hlines : '\n' ∉ a ∧ '\n' ∉ b := by
      simpa [ranged] using hline
    have hfirst := stamp?_eq_some_iff.mpr
      ⟨isStamp_of_isClosed ha hlines.1, Eq.refl (a ++ '-' :: '-' :: (b ++ rest))⟩
    have hsecond := stamp?_eq_some_iff.mpr ⟨isStamp_of_isClosed hb hlines.2, Eq.refl (b ++ rest)⟩
    have hsplit : ranged a b ++ rest = a ++ '-' :: '-' :: (b ++ rest) := by simp [ranged]
    unfold stampRange?
    rw [hsplit, hfirst]
    simp [after?, hsecond, ranged]

theorem WellBracketed.head_eq (h : WellBracketed active w) :
    ∃ more, w = Form.openMark active :: more := by
  rcases h with ⟨inside, rfl, -⟩ | ⟨a, b, ⟨inside, rfl, -⟩, -, rfl⟩
  · exact ⟨_, rfl⟩
  · exact ⟨_, rfl⟩

theorem stampToken?_append (h : WellBracketed active w) (hline : '\n' ∉ w)
    (hrest : ∀ c u, rest = '-' :: '-' :: c :: u → ¬IsOpening c) :
    stampToken? (w ++ rest) = some w := by
  have hread := stampRange?_append h hline hrest
  unfold stampToken?
  cases active with
  | true => exact Option.or_eq_some_iff.mpr (Or.inl hread)
  | false =>
    obtain ⟨more, hmore⟩ := h.head_eq
    have hnone : stampRange? '<' '>' (w ++ rest) = none := by
      simp [hmore, Form.openMark, stampRange?, stamp?, after?]
    exact Option.or_eq_some_iff.mpr (Or.inr ⟨hnone, hread⟩)

/-- Decoding what is well bracketed tells its kind, and keeps it as it is written. -/
theorem WellBracketed.of_decode (h : WellBracketed active w) {s : Stamp} (hs : decode w = .ok s) :
    s.active = active ∧ s.raw = w := by
  have hstrip : strip w = w := by
    rcases h with ⟨inside, rfl, -⟩ | ⟨a, b, ⟨inside, rfl, -⟩, ⟨inside', rfl, -⟩, rfl⟩
    · exact strip_framed_text (isOpening_openMark _) (isClosing_closeMark _)
    · rw [ranged_framed]
      exact strip_framed_text (isOpening_openMark _) (isClosing_closeMark _)
  have hraw : s.raw = w := (raw_of_decode hs).1.trans hstrip
  refine ⟨?_, hraw⟩
  obtain ⟨more, hmore⟩ := h.head_eq
  obtain ⟨a, ⟨inside, rfl, -⟩, hone | ⟨second, o, c, -, -, -, htwo, -⟩⟩ :=
    exists_closed_of_decode hs
  · exact openMark_injective (List.cons.inj (hone.symm.trans (hraw.trans hmore))).1
  · exact openMark_injective (List.cons.inj (htwo.symm.trans (hraw.trans hmore))).1

end Stamp

open Text Stamp

/-- A timestamp and the text in front of it. -/
structure StampPiece where
  front : Text
  active : Bool
  stamp : Text
  plain : ∀ c ∈ front, ¬IsOpening c
  closed : WellBracketed active stamp

namespace StampPiece

/-- The pieces one behind the other, and the text behind the last of them. -/
def spread : List StampPiece → Text → Text
  | [], last => last
  | p :: ps, last => p.front ++ (p.stamp ++ spread ps last)

/-- The timestamps of the pieces where they stand if the first piece begins at the given
position. -/
def placed (pos : Int) : List StampPiece → List Excerpt
  | [] => []
  | p :: ps =>
    ⟨pos + p.front.length, p.stamp⟩ :: placed (pos + p.front.length + p.stamp.length) ps

variable {ps : List StampPiece} {last : Text}

/-- Two hyphens with a bracket behind them, which would make a range, are in no such text. -/
theorem spread_ne_joined (hlast : ∀ c ∈ last, ¬IsOpening c)
    (hjoin : ∀ p ∈ ps.head?, p.front ≠ ['-', '-']) (c : Char) (u : Text)
    (h : spread ps last = '-' :: '-' :: c :: u) : ¬IsOpening c := by
  have hdash : ∀ active, Form.openMark active ≠ '-' := by decide
  cases ps with
  | nil =>
    rw [spread] at h
    exact hlast c (by simp [h])
  | cons p ps =>
    obtain ⟨more, hmore⟩ := p.closed.head_eq
    have hfront : p.front ≠ ['-', '-'] := hjoin p rfl
    rw [spread, hmore] at h
    have hplain := p.plain
    generalize p.front = front at h hfront hplain
    -- The third character is the first one of the stamp only if two hyphens are in front of it.
    match front with
    | [] => exact absurd (List.cons.inj h).1 (hdash p.active)
    | [a] => exact absurd (List.cons.inj (List.cons.inj h).2).1 (hdash p.active)
    | [a, b] =>
      obtain ⟨ha, h⟩ := List.cons.inj h
      obtain ⟨hb, -⟩ := List.cons.inj h
      exact absurd (by rw [ha, hb]) hfront
    | a :: b :: d :: front =>
      obtain ⟨-, h⟩ := List.cons.inj h
      obtain ⟨-, h⟩ := List.cons.inj h
      obtain ⟨rfl, -⟩ := List.cons.inj h
      exact hplain d (by simp)

theorem scan_spread (hlast : ∀ c ∈ last, ¬IsOpening c)
    (hjoin : ∀ p ∈ ps.tail, p.front ≠ ['-', '-']) (hline : '\n' ∉ spread ps last) (pos : Int) :
    (scan stampToken? List.length pos 0 (spread ps last)).map (fun (pos, t) => ⟨pos, t⟩) =
      placed pos ps := by
  induction ps generalizing pos with
  | nil =>
    have hnone : scan stampToken? List.length pos 0 (last ++ []) = _ :=
      scan_append_of_none fun c hc => stampToken?_eq_none (hlast c hc)
    rw [List.append_nil] at hnone
    rw [spread, hnone]
    rfl
  | cons p ps ih =>
    rw [List.tail_cons] at hjoin
    rw [spread] at hline ⊢
    simp only [List.mem_append, not_or] at hline
    have hread := stampToken?_append p.closed hline.2.1
      (spread_ne_joined hlast fun q hq => hjoin q (List.mem_of_mem_head? hq))
    have hne : p.stamp ≠ [] := by
      obtain ⟨more, hmore⟩ := p.closed.head_eq
      rw [hmore]
      exact List.cons_ne_nil _ _
    rw [scan_append_of_none fun c hc => stampToken?_eq_none (p.plain c hc),
      scan_append_of_some hne hread rfl, List.map_cons, placed,
      ih (fun q hq => hjoin q (List.mem_of_mem_tail hq)) hline.2.2]

end StampPiece

/-- In a line of timestamps and texts without opening brackets between them, just these timestamps
are found, each where it stands; and each that is decoded has the kind of its brackets and is kept
as it is written. -/
theorem Line.timestamps_spread (ps : List StampPiece) (last : Text)
    (hlast : ∀ c ∈ last, ¬IsOpening c) (hjoin : ∀ p ∈ ps.tail, p.front ≠ ['-', '-'])
    (hline : '\n' ∉ StampPiece.spread ps last) :
    (∀ pos, Line.timestamps ⟨pos, StampPiece.spread ps last⟩ = StampPiece.placed pos ps) ∧
    ∀ p ∈ ps, ∀ s, Stamp.decode p.stamp = .ok s → s.active = p.active ∧ s.raw = p.stamp :=
  ⟨StampPiece.scan_spread hlast hjoin hline, fun p _ _ hs => p.closed.of_decode hs⟩

/-- A range, a stamp that touches it, hyphens in front of another stamp and at the end. -/
theorem Line.timestamps_spread_dashes :
    let line : Text :=
      "--<2024-01-01>--<2024-01-02 +1w>[2024-01-03 10:00] --[2024-13-01]--".toList
    Line.timestamps ⟨7, line⟩ = [⟨9, "<2024-01-01>--<2024-01-02 +1w>".toList⟩,
        ⟨39, "[2024-01-03 10:00]".toList⟩, ⟨60, "[2024-13-01]".toList⟩] ∧
    ∀ s, Stamp.decode "[2024-01-03 10:00]".toList = .ok s →
      s.active = false ∧ s.raw = "[2024-01-03 10:00]".toList := by
  intro line
  have hline : '\n' ∉ line := by decide
  have hinside (d more : Text) (h : date? (d ++ more) = some (d, more) ∧
      more.all (!isBracket ·) = true) : IsInside (d ++ more) :=
    ⟨d, more, rfl, (date?_eq_some_iff.mp h.1).1, by simpa using h.2⟩
  let range : StampPiece := {
    front := "--".toList, active := true, stamp := "<2024-01-01>--<2024-01-02 +1w>".toList
    plain := by simp [IsOpening]
    closed := Or.inr ⟨_, _, ⟨_, rfl, hinside "2024-01-01".toList "".toList (by decide +kernel)⟩,
      ⟨_, rfl, hinside "2024-01-02".toList " +1w".toList (by decide +kernel)⟩, rfl⟩ }
  let timed : StampPiece := {
    front := [], active := false, stamp := "[2024-01-03 10:00]".toList
    plain := by simp [IsOpening]
    closed := Or.inl ⟨_, rfl, hinside "2024-01-03".toList " 10:00".toList (by decide +kernel)⟩ }
  let invalid : StampPiece := {
    front := " --".toList, active := false, stamp := "[2024-13-01]".toList
    plain := by simp [IsOpening]
    closed := Or.inl ⟨_, rfl, hinside "2024-13-01".toList "".toList (by decide +kernel)⟩ }
  obtain ⟨hfound, hdecoded⟩ := timestamps_spread [range, timed, invalid] "--".toList
    (by simp [IsOpening]) (by simp [timed, invalid]) hline
  exact ⟨hfound 7, hdecoded timed (by simp)⟩

end OutlineTables
