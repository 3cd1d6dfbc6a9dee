import OutlineTables.Proofs.Stamp.Brackets

/-!
Timestamps and the brackets that close them. Main statement: the first stamp of what is decoded is
closed by the bracket of its own kind, and so is the second one of a range wherever a line is
searched for timestamps. Otherwise a second stamp may have any brackets, which are not looked at.
-/
namespace OutlineTables

open Text

/-! A bracket ends what is read of the text in front of it, as the end of the text does. -/

namespace Text

section Stop

variable {c : Char} {t : Text} (rest : Text)

theorem dropWhile_append_stop {p : Char → Bool} (hc : p c = false) :
    (t ++ c :: rest).dropWhile p = t.dropWhile p ++ c :: rest := by
  rw [List.dropWhile_append, List.dropWhile_cons_of_neg (ne_true_of_eq_false hc)]
  split
  · rename_i hempty
    rw [List.isEmpty_iff.mp hempty, List.nil_append]
  · rfl

theorem digits?_append_stop (hc : isDigit c = false) (n : Nat) :
    digits? n (t ++ c :: rest) = (digits? n t).map fun x => (x.1, x.2 ++ c :: rest) := by
  induction n generalizing t with
  | zero => rfl
  | succ n ih =>
    cases t with
    | nil => simp [digits?, hc]
    | cons d t =>
      rw [List.cons_append, digits?, digits?, ih]
      split
      · rw [Option.map_map, Option.map_map]
        rfl
      · rfl

theorem after?_append_stop {d : Char} (hc : d ≠ c) :
    after? [d] (t ++ c :: rest) = (after? [d] t).map (· ++ c :: rest) := by
  cases t with
  | nil => simp [after?, hc]
  | cons e t =>
    by_cases he : d = e <;> simp [after?, he]

theorem afterGap?_append_stop (hc : isGap c = false) :
    afterGap? (t ++ c :: rest) = (afterGap? t).map (· ++ c :: rest) := by
  cases t with
  | nil => simp [afterGap?, hc]
  | cons d t =>
    rw [List.cons_append, afterGap?, afterGap?, dropWhile_append_stop rest hc]
    split <;> rfl

end Stop

end Text

namespace Stamp

section Bracket

variable {c : Char} (hc : isBracket c = true) (t rest : Text)

include hc

theorem stops_of_isBracket : isDigit c = false ∧ isDayChar c = false ∧ ':' ≠ c ∧ '-' ≠ c := by
  refine ⟨?_, ?_, ?_, ?_⟩
  · exact eq_false_of_ne_true fun h => by simp [isBracket_of_digit h] at hc
  · exact eq_false_of_ne_true fun h => by simp [isBracket_of_isDayChar h] at hc
  · rintro rfl
    cases hc
  · rintro rfl
    cases hc

theorem clock?_append_bracket :
    clock? (t ++ c :: rest) = (clock? t).map fun x => (x.1, x.2 ++ c :: rest) := by
  obtain ⟨hdigit, -, hcolon, -⟩ := stops_of_isBracket hc
  have hhour : (digits? 2 (t ++ c :: rest)).or (digits? 1 (t ++ c :: rest)) =
      ((digits? 2 t).or (digits? 1 t)).map fun x => (x.1, x.2 ++ c :: rest) := by
    rw [digits?_append_stop rest hdigit, digits?_append_stop rest hdigit, Option.map_or]
  unfold clock?
  rw [hhour]
  cases (digits? 2 t).or (digits? 1 t) with
  | none => rfl
  | some hour =>
    simp only [Option.bind_eq_bind, Option.map_some, Option.bind_some,
      after?_append_stop rest hcolon]
    cases after? [':'] hour.2 with
    | none => rfl
    | some behind =>
      simp only [Option.map_some, Option.bind_some, digits?_append_stop rest hdigit]
      cases digits? 2 behind <;> rfl

theorem skipDay_append_bracket : skipDay (t ++ c :: rest) = skipDay t ++ c :: rest := by
  obtain ⟨-, hday, -, -⟩ := stops_of_isBracket hc
  unfold skipDay
  rw [afterGap?_append_stop rest (isGap_of_isBracket hc)]
  cases afterGap? t with
  | none => rfl
  | some behind =>
    cases behind with
    | nil => simp [hday]
    | cons d ds =>
      simp only [Option.map_some, List.cons_append, dropWhile_append_stop rest hday]
      split <;> rfl

theorem clocks_append_bracket : clocks (t ++ c :: rest) =
    ((clocks t).1, (clocks t).2.1, (clocks t).2.2 ++ c :: rest) := by
  obtain ⟨-, -, -, hdash⟩ := stops_of_isBracket hc
  have hstart : (afterGap? (t ++ c :: rest)).bind clock? =
      ((afterGap? t).bind clock?).map fun x => (x.1, x.2 ++ c :: rest) := by
    rw [afterGap?_append_stop rest (isGap_of_isBracket hc)]
    cases afterGap? t with
    | none => rfl
    | some behind => exact clock?_append_bracket hc behind rest
  have hfinish (u : Text) : (after? ['-'] (u ++ c :: rest)).bind clock? =
      ((after? ['-'] u).bind clock?).map fun x => (x.1, x.2 ++ c :: rest) := by
    rw [after?_append_stop rest hdash]
    cases after? ['-'] u with
    | none => rfl
    | some behind => exact clock?_append_bracket hc behind rest
  unfold clocks
  rw [hstart]
  cases (afterGap? t).bind clock? with
  | none => rfl
  | some start =>
    dsimp only [Option.map_some]
    rw [hfinish]
    cases (after? ['-'] start.2).bind clock? <;> rfl

end Bracket

/-- A date and any text without brackets. -/
def IsInside (t : Text) : Prop :=
  ∃ d more, t = d ++ more ∧ IsDate d ∧ ∀ c ∈ more, isBracket c = false

def IsOpening (c : Char) : Prop := c = '<' ∨ c = '['

def IsClosing (c : Char) : Prop := c = '>' ∨ c = ']'

def framed (o c : Char) (inside : Text) : Text := o :: (inside ++ [c])

/-- Two stamps with two hyphens between them. -/
def ranged (a b : Text) : Text := a ++ '-' :: '-' :: b

/-- A stamp that the bracket of its own kind closes. -/
def IsClosed (active : Bool) (t : Text) : Prop :=
  ∃ inside, t = framed (Form.openMark active) (Form.closeMark active) inside ∧ IsInside inside

/-- One stamp that its own bracket closes, or two of one kind. -/
def WellBracketed (active : Bool) (t : Text) : Prop :=
  IsClosed active t ∨ ∃ a b, IsClosed active a ∧ IsClosed active b ∧ t = ranged a b

/-- Date and times of a stamp are the same between whatever brackets. -/
theorem exists_written?_framed {inside : Text} (h : IsInside inside) :
    ∃ w : Written, ∀ o c rest, IsOpening o → IsClosing c →
      written? (framed o c inside ++ rest) =
        some ({ w with openMark := o, closeMark := c }, rest) := by
  obtain ⟨d, more, rfl, hd, hmore⟩ := h
  obtain ⟨times, htimes⟩ : ∃ times, clocks (skipDay more) = times := ⟨_, rfl⟩
  have hplain : ∀ c ∈ times.2.2, (!isBracket c) = true := by
    obtain ⟨u, hu, hsplit⟩ := (readTo_skipDay more).trans (readTo_clocks (skipDay more))
    intro c hc
    rw [hmore c]
    · rfl
    · rw [← hsplit, htimes]
      exact List.mem_append_right _ hc
  refine ⟨⟨'<', d, times.1, times.2.1, times.2.2, '>'⟩, fun o c rest ho hc => ?_⟩
  have hbracket : isBracket c = true := by
    rcases hc with rfl | rfl <;> rfl
  have htext : framed o c (d ++ more) ++ rest = o :: (d ++ (more ++ c :: rest)) := by
    simp [framed]
  have hdate : date? (d ++ (more ++ c :: rest)) = some (d, more ++ c :: rest) :=
    date?_eq_some_iff.mpr ⟨hd, rfl⟩
  obtain ⟨htake, hdrop⟩ := takeWhile_stop hplain (c := c) (by simp [hbracket]) rest
  unfold IsOpening at ho
  unfold IsClosing at hc
  rw [htext, written?, if_pos (by simpa using ho), hdate]
  simp only [Option.bind_eq_bind, Option.bind_some]
  rw [skipDay_append_bracket hbracket, clocks_append_bracket hbracket, htimes, hdrop, htake]
  dsimp only
  rw [if_pos (by simpa using hc)]

theorem exists_writtenRange?_ranged {first second : Text} (hfirst : IsInside first)
    (hsecond : IsInside second) :
    ∃ v w : Written, ∀ o c o' c', IsOpening o → IsClosing c → IsOpening o' → IsClosing c' →
      writtenRange? (ranged (framed o c first) (framed o' c' second)) =
        some ({ v with openMark := o, closeMark := c },
          some { w with openMark := o', closeMark := c' }) := by
  obtain ⟨v, hv⟩ := exists_written?_framed hfirst
  obtain ⟨w, hw⟩ := exists_written?_framed hsecond
  refine ⟨v, w, fun o c o' c' ho hc ho' hc' => ?_⟩
  have hread := hv o c ('-' :: '-' :: framed o' c' second) ho hc
  have hread' := hw o' c' [] ho' hc'
  rw [List.append_nil] at hread'
  unfold writtenRange? ranged
  rw [hread]
  simp [after?, hread']

section Frames

variable {o c : Char} {t : Text}

theorem strip_framed_text (ho : IsOpening o) (hc : IsClosing c) :
    strip (framed o c t) = framed o c t := by
  have hopen : isBlank o = false := by rcases ho with rfl | rfl <;> decide
  have hclose : isBlank c = false := by rcases hc with rfl | rfl <;> decide
  exact strip_framed hopen hclose t

/-- A range is a frame around all that is in it. -/
theorem ranged_framed (o c o' c' : Char) (t u : Text) :
    ranged (framed o c t) (framed o' c' u) = framed o c' (t ++ c :: '-' :: '-' :: o' :: u) := by
  simp [ranged, framed]

theorem isOpening_openMark (active : Bool) : IsOpening (Form.openMark active) := by
  cases active
  · exact Or.inr rfl
  · exact Or.inl rfl

theorem isClosing_closeMark (active : Bool) : IsClosing (Form.closeMark active) := by
  cases active
  · exact Or.inr rfl
  · exact Or.inl rfl

theorem openMark_injective {a b : Bool} (h : Form.openMark a = Form.openMark b) : a = b := by
  revert h
  cases a <;> cases b <;> decide

theorem openMark_decide (ho : IsOpening o) : Form.openMark (decide (o = '<')) = o := by
  rcases ho with rfl | rfl <;> rfl

theorem closeMark_decide (ho : IsOpening o) : Form.closeMark (decide (o = '<')) = closing o := by
  rcases ho with rfl | rfl <;> rfl

theorem IsBracketed.exists_inside {w : Written} (h : IsBracketed w t) :
    IsOpening w.openMark ∧ IsClosing w.closeMark ∧
      ∃ inside, t = framed w.openMark w.closeMark inside ∧ IsInside inside := by
  obtain ⟨d, more, rfl, hd, hmore, ho, hc⟩ := h
  exact ⟨ho, hc, d ++ more, rfl, d, more, rfl, hd, hmore⟩

theorem not_mem_inside (h : IsInside t) (hc : isBracket c = true) : c ∉ t := by
  obtain ⟨d, more, rfl, hd, hmore⟩ := h
  intro hmem
  have hnone : isBracket c = false := by
    rcases List.mem_append.mp hmem with hmem | hmem
    · exact isBracket_of_isDate hd c hmem
    · exact hmore c hmem
  rw [hc] at hnone
  cases hnone

end Frames

/-- The brackets of the second stamp of a range do not count. -/
theorem decode_ranged {first second : Text} (hfirst : IsInside first) (hsecond : IsInside second)
    {o c o' c' : Char} (ho : IsOpening o) (hc : IsClosing c) (ho' : IsOpening o')
    (hc' : IsClosing c') {raw : Text} {s : Stamp}
    (hraw : strip raw = ranged (framed o c first) (framed o' c' second))
    (h : decode raw = .ok s) {p q : Char} (hp : IsOpening p) (hq : IsClosing q) :
    decode (ranged (framed o c first) (framed p q second)) =
      .ok { s with raw := ranged (framed o c first) (framed p q second) } := by
  obtain ⟨v, w, hread⟩ := exists_writtenRange?_ranged hfirst hsecond
  have hwritten := hread o c o' c' ho hc ho' hc'
  rw [← hraw] at hwritten
  have hwritten' := hread o c p q ho hc hp hq
  have hstrip : strip (ranged (framed o c first) (framed p q second)) =
      ranged (framed o c first) (framed p q second) := by
    rw [ranged_framed]
    exact strip_framed_text ho hq
  rw [← hstrip] at hwritten'
  obtain ⟨a, b, start, finish, m, hw, hclosed, hstart, hfinish, hsuffix, rfl⟩ := exists_of_decode h
  rw [hwritten] at hw
  cases hw
  have hfinish' : readFinish { v with openMark := o, closeMark := c }
      (some { w with openMark := p, closeMark := q }) = .ok finish := hfinish
  rw [decode_eq hwritten', if_neg (not_not.mpr hclosed), hstart, hfinish', hsuffix, hstrip]
  rfl

/-- What a line is searched for, cut at the bracket that closes its first stamp. -/
theorem exists_cut_of_stampRange? (active : Bool) {t w : Text}
    (h : stampRange? (Form.openMark active) (Form.closeMark active) t = some w) :
    ∃ first rest, w = Form.openMark active :: (first ++ Form.closeMark active :: rest) ∧
      Form.closeMark active ∉ first ∧ (rest = [] ∨ ∃ second,
        rest = '-' :: '-' :: framed (Form.openMark active) (Form.closeMark active) second) := by
  obtain ⟨⟨a, behind⟩, ha, h⟩ := Option.bind_eq_some_iff.mp h
  obtain ⟨d, inside, rfl, hd, hinside⟩ := (stamp?_eq_some_iff.mp ha).1
  have hclose : Form.closeMark active ∉ d ++ inside := by
    intro hmem
    rcases List.mem_append.mp hmem with hmem | hmem
    · have hnone := isBracket_of_isDate hd _ hmem
      rw [Form.isBracket_closeMark] at hnone
      cases hnone
    · exact (hinside _ hmem).1 rfl
  dsimp only at h
  split at h
  · rename_i b behind' hb
    cases h
    obtain ⟨u, hu, hb⟩ := Option.bind_eq_some_iff.mp hb
    obtain ⟨d', inside', rfl, -, -⟩ := (stamp?_eq_some_iff.mp hb).1
    refine ⟨d ++ inside, _, ?_, hclose, Or.inr ⟨d' ++ inside', rfl⟩⟩
    simp [framed]
  · cases h
    exact ⟨d ++ inside, [], by simp, hclose, Or.inl rfl⟩

theorem exists_stampRange?_of_stampToken? {t w : Text} (h : stampToken? t = some w) :
    ∃ active, stampRange? (Form.openMark active) (Form.closeMark active) t = some w := by
  unfold stampToken? at h
  rcases Option.or_eq_some_iff.mp h with h | ⟨-, h⟩
  · exact ⟨true, h⟩
  · exact ⟨false, h⟩

section Decode

variable {raw : Text} {s : Stamp}

/-- The first stamp is closed, and if there is a second one, its brackets do not count. -/
theorem exists_closed_of_decode (h : decode raw = .ok s) :
    ∃ a, IsClosed s.active a ∧ (s.raw = a ∨ ∃ inside o c, IsInside inside ∧ IsOpening o ∧
      IsClosing c ∧ s.raw = ranged a (framed o c inside) ∧
        ∀ o' c', IsOpening o' → IsClosing c' → decode (ranged a (framed o' c' inside)) =
          .ok { s with raw := ranged a (framed o' c' inside) }) := by
  obtain ⟨v, w, start, finish, p, hw, hclosed, -, -, -, hs⟩ := exists_of_decode h
  have hraw : s.raw = strip raw := by rw [hs]
  have hactive : s.active = decide (v.openMark = '<') := by rw [hs]
  obtain ⟨a, ha, hcase⟩ := isBracketed_of_writtenRange? hw
  obtain ⟨ho, hc, first, rfl, hfirst⟩ := ha.exists_inside
  have hopen : Form.openMark s.active = v.openMark := by rw [hactive, openMark_decide ho]
  have hclose : Form.closeMark s.active = v.closeMark := by
    rw [hactive, closeMark_decide ho, hclosed]
  refine ⟨_, ⟨first, by rw [hopen, hclose], hfirst⟩, ?_⟩
  rcases hcase with ⟨-, hone⟩ | ⟨w', b, -, hb, htwo⟩
  · left
    rw [hraw, hone]
  · right
    obtain ⟨ho', hc', second, rfl, hsecond⟩ := hb.exists_inside
    have hranged : strip raw = ranged (framed v.openMark v.closeMark first)
        (framed w'.openMark w'.closeMark second) := by
      rw [htwo]
      simp [ranged]
    refine ⟨second, w'.openMark, w'.closeMark, hsecond, ho', hc', hraw.trans hranged, ?_⟩
    intro o' c' hp hq
    exact decode_ranged hfirst hsecond ho hc ho' hc' hranged h hp hq

/-- A range that a line is searched for has its brackets in common with what is decoded. -/
theorem wellBracketed_of_stampToken? {t : Text} (ht : stampToken? t = some raw)
    (h : decode raw = .ok s) : WellBracketed s.active raw := by
  obtain ⟨active, hread⟩ := exists_stampRange?_of_stampToken? ht
  obtain ⟨first, rest, hcut, hfirst, hrest⟩ := exists_cut_of_stampRange? active hread
  have hstrip : strip raw = raw := by
    have hframed : ∃ inside,
        raw = framed (Form.openMark active) (Form.closeMark active) inside := by
      rcases hrest with rfl | ⟨second, rfl⟩
      · exact ⟨first, hcut⟩
      · refine ⟨first ++ Form.closeMark active :: '-' :: '-' :: Form.openMark active :: second, ?_⟩
        rw [hcut]
        simp [framed]
    obtain ⟨inside, hinside⟩ := hframed
    rw [hinside, strip_framed_text (isOpening_openMark active) (isClosing_closeMark active)]
  have hraw : s.raw = raw := by
    obtain ⟨_, _, _, _, _, _, _, _, _, _, hs⟩ := exists_of_decode h
    rw [hs]
    exact hstrip
  obtain ⟨a, ⟨inside, rfl, hinside⟩, hone | ⟨second, o, c, hsecond, -, -, htwo, -⟩⟩ :=
    exists_closed_of_decode h
  · exact Or.inl ⟨inside, hraw.symm.trans hone, hinside⟩
  · -- Both cuts are at the first bracket that closes, so what is behind it is the same.
    have hsame := hcut.symm.trans (hraw.symm.trans htwo)
    rw [ranged, framed, List.cons_append, List.append_assoc, List.singleton_append] at hsame
    obtain ⟨hopen, hbehind⟩ := List.cons.inj hsame
    obtain rfl := openMark_injective hopen
    have hcut := cutAt_append hfirst rest
    rw [hbehind, cutAt_append (not_mem_inside hinside (Form.isBracket_closeMark s.active))] at hcut
    obtain ⟨-, rfl⟩ := Prod.mk.inj hcut
    obtain hnil | ⟨second', hrange⟩ := hrest
    · cases hnil
    · obtain ⟨hopen', hmore⟩ := List.cons.inj (List.cons.inj (List.cons.inj hrange).2).2
      obtain ⟨hinside', hclose'⟩ := List.append_inj' hmore rfl
      obtain rfl := List.singleton_inj.mp hclose'
      obtain rfl := hopen'
      exact Or.inr ⟨_, _, ⟨inside, rfl, hinside⟩, ⟨second, rfl, hsecond⟩, hraw.symm.trans htwo⟩

end Decode

/-- An accepted timestamp begins with a stamp that the bracket of its own kind closes. A second
stamp may have any brackets, and the timestamp is the same whatever they are; but where a line is
searched for timestamps, they are of the same kind as the first. -/
theorem brackets_of_decode {raw : Text} {s : Stamp} (h : decode raw = .ok s) :
    s.raw = strip raw ∧
    (∃ a, IsClosed s.active a ∧ (s.raw = a ∨ ∃ inside o c, IsInside inside ∧ IsOpening o ∧
      IsClosing c ∧ s.raw = ranged a (framed o c inside) ∧
        ∀ o' c', IsOpening o' → IsClosing c' → decode (ranged a (framed o' c' inside)) =
          .ok { s with raw := ranged a (framed o' c' inside) })) ∧
    ∀ t, stampToken? t = some raw → WellBracketed s.active raw :=
  ⟨(raw_of_decode h).1, exists_closed_of_decode h, fun _ ht => wellBracketed_of_stampToken? ht h⟩

/-- A range in a line of text. -/
theorem brackets_of_decode_line :
    let raw : Text := "<2024-01-01 Mon 10:00>--<2024-01-02 +1w>".toList
    ∃ s, decode raw = .ok s ∧ s.active = true ∧
      stampToken? (raw ++ " and [later]".toList) = some raw ∧
      s.raw = raw ∧ WellBracketed true raw := by
  intro raw
  have h : ((decode raw).map (·.active)).toOption = some true := by decide +kernel
  have ht : stampToken? (raw ++ " and [later]".toList) = some raw := by decide +kernel
  obtain ⟨s, hs, hactive⟩ := exists_of_map h
  obtain ⟨hraw, -, hline⟩ := brackets_of_decode hs
  rw [hactive] at hline
  exact ⟨s, hs, hactive, ht, hraw.trans (by decide), hline _ ht⟩

/-- As many stamps open as close, of either kind. -/
theorem WellBracketed.count_eq {active : Bool} {t : Text} (h : WellBracketed active t) :
    t.count '<' = t.count '>' := by
  have hone {t : Text} (h : IsClosed active t) : t.count '<' = t.count '>' := by
    obtain ⟨inside, rfl, hinside⟩ := h
    have hopen : inside.count '<' = 0 := List.count_eq_zero.mpr (not_mem_inside hinside rfl)
    have hclose : inside.count '>' = 0 := List.count_eq_zero.mpr (not_mem_inside hinside rfl)
    cases active <;> simp [framed, Form.openMark, Form.closeMark, hopen, hclose]
  rcases h with h | ⟨a, b, ha, hb, rfl⟩
  · exact hone h
  · simp [ranged, hone ha, hone hb]

/-- The second stamp of this range opens with one kind of bracket and closes with the other. -/
theorem not_wellBracketed_range :
    let raw : Text := "<2024-01-01>--[2024-01-02>".toList
    ∃ s, decode raw = .ok s ∧ s.raw = raw ∧ ¬WellBracketed s.active raw := by
  intro raw
  have h : ((decode raw).map (·.raw)).toOption = some raw := by decide +kernel
  obtain ⟨s, hs, hraw⟩ := exists_of_map h
  refine ⟨s, hs, hraw, fun hwell => ?_⟩
  have hcount := hwell.count_eq
  revert hcount
  decide

end Stamp

end OutlineTables
