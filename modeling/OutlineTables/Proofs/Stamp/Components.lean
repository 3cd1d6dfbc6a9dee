import OutlineTables.Proofs.Stamp.Forms
import OutlineTables.Proofs.Text.Readers

/-!
Components of timestamps read from their text. Each reader takes its own component from the head of
a text and leaves the rest: what follows a component never goes on with one of its characters.
-/
namespace OutlineTables

namespace Text

theorem after?_append (lead t : Text) : after? lead (lead ++ t) = some t := by
  induction lead with
  | nil => rfl
  | cons c lead ih => rw [List.cons_append, after?, if_pos rfl, ih]

theorem digits?_append {ds : Text} (h : ∀ c ∈ ds, isDigit c = true) (rest : Text) :
    digits? ds.length (ds ++ rest) = some (ds, rest) := by
  induction ds with
  | nil => rfl
  | cons c ds ih =>
    obtain ⟨hc, hds⟩ := List.forall_mem_cons.mp h
    rw [List.length_cons, List.cons_append, digits?, if_pos hc, ih hds]
    rfl

theorem digits?_padded {k n : Nat} (hk : 0 < k) (h : n < 10 ^ k) (rest : Text) :
    digits? k (Numeral.padded k n ++ rest) = some (Numeral.padded k n, rest) := by
  have hread := digits?_append (Numeral.digits_padded k n) rest
  rw [Numeral.length_padded hk h] at hread
  exact hread

theorem afterGap?_space {c : Char} (hc : isGap c = false) (t : Text) :
    afterGap? (' ' :: c :: t) = some (c :: t) := by
  have hspace : isGap ' ' = true := rfl
  rw [afterGap?, if_pos hspace, List.dropWhile_cons_of_neg (ne_true_of_eq_false hc)]

theorem isGap_of_not_isBlank {c : Char} (h : isBlank c = false) : isGap c = false := by
  cases hc : isGap c with
  | false => rfl
  | true => exact absurd (isBlank_of_isGap hc) (ne_true_of_eq_false h)

theorem isGap_of_isDigit {c : Char} (h : isDigit c = true) : isGap c = false := by
  cases hc : isGap c with
  | false => rfl
  | true =>
    simp only [isGap, Bool.or_eq_true, decide_eq_true_eq] at hc
    rcases hc with rfl | rfl <;> exact absurd h (by decide)

/-- A time is not read where no digit stands. -/
theorem clock?_eq_none {c : Char} (hc : isDigit c = false) (t : Text) : clock? (c :: t) = none := by
  simp [clock?, digits?, hc]

end Text

namespace Calendar.Date

theorem date?_text (a : Date) (hy : a.year ≤ 9999) (rest : Text) :
    Text.date? (a.text ++ rest) = some (a.text, rest) := by
  have hm := a.month_le
  have hd : a.day ≤ 31 := Nat.le_trans a.day_le (monthLength_bounds a.year a.month).2
  have hyear := Text.digits?_padded (k := 4) (n := a.year) (by decide) (by omega)
  have hmonth := Text.digits?_padded (k := 2) (n := a.month) (by decide) (by omega)
  have hday := Text.digits?_padded (k := 2) (n := a.day) (by decide) (by omega)
  have hdash (t : Text) : Text.after? ['-'] ('-' :: t) = some t := Text.after?_append ['-'] t
  simp [Text.date?, text, hyear, hmonth, hday, hdash]

end Calendar.Date

namespace Stamp

open Text

namespace ClockTime

/-- The hour has one digit or two. -/
theorem length_hourText (c : ClockTime) : c.hourText.length = 1 ∨ c.hourText.length = 2 := by
  have hhour := c.hour_lt
  unfold hourText
  split
  · have htwo : (Text.ofNat c.hour).length ≤ 2 :=
      (Nat.length_toDigits_le_iff (by decide) (by decide)).mpr (by omega)
    have hone : 0 < (Text.ofNat c.hour).length :=
      List.length_pos_iff.mpr (Text.ofNat_ne_nil c.hour)
    omega
  · exact Or.inr (Numeral.length_padded (by decide) (by omega))

theorem isDigit_hourText (c : ClockTime) : ∀ d ∈ c.hourText, isDigit d = true := by
  unfold hourText
  split
  · exact Numeral.digits_ofNat c.hour
  · exact Numeral.digits_padded 2 c.hour

theorem value_hourText (c : ClockTime) : Numeral.value c.hourText = c.hour := by
  unfold hourText
  split
  · exact Numeral.value_ofNat c.hour
  · exact Numeral.value_padded 2 c.hour

/-- A time begins with a digit. -/
theorem exists_text (c : ClockTime) : ∃ d t, c.text = d :: t ∧ isDigit d = true := by
  have hne : c.hourText ≠ [] := by
    have hlength := c.length_hourText
    intro hnil
    rw [hnil] at hlength
    simp at hlength
  obtain ⟨d, ds, hd⟩ := List.exists_cons_of_ne_nil hne
  have hdigit := c.isDigit_hourText d (by rw [hd]; exact List.mem_cons_self)
  refine ⟨d, ds ++ ':' :: Numeral.padded 2 c.minute, ?_, hdigit⟩
  rw [text, hd, List.cons_append]

theorem clock?_text (c : ClockTime) (rest : Text) :
    Text.clock? (c.text ++ rest) = some (c.text, rest) := by
  have hbound := c.minute_lt
  have hminute := Text.digits?_padded (k := 2) (n := c.minute) (by decide) (by omega) rest
  have hcolon (t : Text) : Text.after? [':'] (':' :: t) = some t := Text.after?_append [':'] t
  have hdigits := c.isDigit_hourText
  have hhour : (Text.digits? 2 (c.hourText ++ ':' :: (Numeral.padded 2 c.minute ++ rest))).or
      (Text.digits? 1 (c.hourText ++ ':' :: (Numeral.padded 2 c.minute ++ rest))) =
        some (c.hourText, ':' :: (Numeral.padded 2 c.minute ++ rest)) := by
    have hread := Text.digits?_append hdigits (':' :: (Numeral.padded 2 c.minute ++ rest))
    rcases c.length_hourText with hone | htwo
    · -- A colon behind the first digit ends the attempt to read two.
      obtain ⟨d, hd⟩ := List.length_eq_one_iff.mp hone
      have hnone : Text.digits? 2 (c.hourText ++ ':' :: (Numeral.padded 2 c.minute ++ rest)) =
          none := by
        have hmark : isDigit ':' = false := by decide
        simp [hd, Text.digits?, hmark]
      rw [hone] at hread
      rw [hnone, hread, Option.none_or]
    · rw [htwo] at hread
      rw [hread, Option.some_or]
  simp [Text.clock?, text, hhour, hminute, hcolon]

end ClockTime

theorem isDayChar_iff {c : Char} : isDayChar c = true ↔ isBlank c = false ∧ isDigit c = false ∧
    isBracket c = false ∧ c ≠ '+' ∧ c ≠ '.' ∧ c ≠ '-' := by
  simp [isDayChar, and_assoc]

theorem isDayChar_of_isDigit {c : Char} (h : isDigit c = true) : isDayChar c = false := by
  cases hc : isDayChar c with
  | false => rfl
  | true => exact absurd (isDayChar_iff.mp hc).2.1 (by rw [h]; exact Bool.noConfusion)

/-- What may stand behind a component: a bracket, or a space and a character of the next one. -/
inductive Follows (p : Char → Prop) : Text → Prop
  | bracket {c : Char} (h : isBracket c = true) (t : Text) : Follows p (c :: t)
  | space {c : Char} (h : p c) (t : Text) : Follows p (' ' :: c :: t)

/-- The first character of a time, a repeater or a warning. -/
def OpensNext (c : Char) : Prop := isGap c = false ∧ isDayChar c = false

/-- The first character of a repeater or a warning. -/
def OpensMark (c : Char) : Prop := c = '+' ∨ c = '.' ∨ c = '-'

theorem OpensMark.next {c : Char} (h : OpensMark c) : OpensNext c := by
  rcases h with rfl | rfl | rfl <;> exact ⟨by decide, by decide⟩

theorem Follows.mono {p q : Char → Prop} {t : Text} (h : Follows p t) (hpq : ∀ c, p c → q c) :
    Follows q t := by
  cases h with
  | bracket hc t => exact Follows.bracket hc t
  | space hc t => exact Follows.space (hpq _ hc) t

theorem isGap_of_isBracket {c : Char} (h : isBracket c = true) : isGap c = false := by
  simp only [isBracket, Bool.or_eq_true, decide_eq_true_eq] at h
  rcases h with ((rfl | rfl) | rfl) | rfl <;> rfl

theorem afterGap?_of_bracket {c : Char} (h : isBracket c = true) (t : Text) :
    afterGap? (c :: t) = none := by
  rw [afterGap?, if_neg (ne_true_of_eq_false (isGap_of_isBracket h))]

/-- No day name goes on with what follows it. -/
theorem Follows.dropWhile_day {p : Char → Prop} {t : Text} (h : Follows p t) :
    t.dropWhile isDayChar = t := by
  cases h with
  | bracket hc t =>
    have hnot : ¬isDayChar _ = true := fun hd => by
      have hbracket := (isDayChar_iff.mp hd).2.2.1
      rw [hc] at hbracket
      cases hbracket
    exact List.dropWhile_cons_of_neg hnot
  | space hc t => exact List.dropWhile_cons_of_neg (by decide)

theorem skipDay_none {t : Text} (h : Follows OpensNext t) : skipDay t = t := by
  unfold skipDay
  cases h with
  | bracket hc t => rw [afterGap?_of_bracket hc]
  | space hc t =>
    rw [afterGap?_space hc.1]
    dsimp only
    rw [if_neg (ne_true_of_eq_false hc.2)]

theorem skipDay_name (d : DayName) {t : Text} (h : Follows OpensNext t) :
    skipDay (' ' :: (d.text ++ t)) = t := by
  obtain ⟨c, cs, hd⟩ := List.exists_cons_of_ne_nil d.nonempty
  have hchars := d.chars
  rw [hd] at hchars ⊢
  obtain ⟨hc, hcs⟩ := List.forall_mem_cons.mp hchars
  have hgap : isGap c = false := isGap_of_not_isBlank (isDayChar_iff.mp hc).1
  unfold skipDay
  rw [List.cons_append, afterGap?_space hgap]
  dsimp only
  rw [if_pos hc, List.dropWhile_append_of_pos hcs, h.dropWhile_day]

theorem clocks_none {t : Text} (h : Follows OpensMark t) : clocks t = (none, none, t) := by
  have hnone : (afterGap? t).bind Text.clock? = none := by
    cases h with
    | bracket hc t =>
      rw [afterGap?_of_bracket hc]
      rfl
    | space hc t =>
      rw [afterGap?_space hc.next.1, Option.bind_some]
      apply clock?_eq_none
      rcases hc with rfl | rfl | rfl <;> decide
  unfold clocks
  rw [hnone]

/-- A time, and maybe a second one behind a dash. -/
theorem clocks_text (c : ClockTime) (finish : Option ClockTime) {t : Text}
    (h : Follows OpensMark t) :
    clocks (' ' :: (c.text ++ (Form.endText finish ++ t))) =
      (some c.text, finish.map (·.text), t) := by
  have hstart : (afterGap? (' ' :: (c.text ++ (Form.endText finish ++ t)))).bind Text.clock? =
      some (c.text, Form.endText finish ++ t) := by
    obtain ⟨d, u, hd, hdigit⟩ := c.exists_text
    have hgap : afterGap? (' ' :: (c.text ++ (Form.endText finish ++ t))) =
        some (c.text ++ (Form.endText finish ++ t)) := by
      rw [hd, List.cons_append]
      exact afterGap?_space (isGap_of_isDigit hdigit) _
    rw [hgap, Option.bind_some, c.clock?_text]
  unfold clocks
  rw [hstart]
  dsimp only
  cases finish with
  | none =>
    have hnone : Text.after? ['-'] t = none := by
      cases h with
      | bracket hc t =>
        refine if_neg ?_
        rintro rfl
        exact absurd hc (by decide)
      | space hc t => rfl
    simp only [Form.endText, List.nil_append, hnone]
    rfl
  | some e =>
    have hdash : Text.after? ['-'] (Form.endText (some e) ++ t) = some (e.text ++ t) :=
      Text.after?_append ['-'] (e.text ++ t)
    rw [hdash, Option.bind_some, e.clock?_text]
    rfl

namespace Form

theorem isBracket_closeMark (active : Bool) : isBracket (closeMark active) = true := by
  cases active <;> rfl

/-- A repeater or a warning, or the closing bracket, may follow a date and its time. -/
structure Suffix (s : Text) : Prop where
  plain : ∀ c ∈ s, isBracket c = false
  follows : ∀ active rest, Follows OpensMark (s ++ closeMark active :: rest)

/-- What a point and the end of its time are read as. -/
theorem written?_bracketed (active : Bool) (p : Point) {finish : Option ClockTime}
    (hclock : finish.isSome = true → p.clock.isSome = true) {s : Text} (hs : Suffix s)
    (rest : Text) :
    written? (bracketed active p finish s ++ rest) = some (⟨openMark active, p.date.text,
      p.clock.map (·.text), finish.map (·.text), s, closeMark active⟩, rest) := by
  let behind : Text := s ++ closeMark active :: rest
  have hbehind : Follows OpensMark behind := hs.follows active rest
  have hopen : openMark active = '<' ∨ openMark active = '[' := by
    cases active
    · exact Or.inr rfl
    · exact Or.inl rfl
  have hclose : closeMark active = '>' ∨ closeMark active = ']' := by
    cases active
    · exact Or.inr rfl
    · exact Or.inl rfl
  -- The times, with or without a time range.
  let timed : Text := spaced (p.clock.map (·.text)) ++ (endText finish ++ behind)
  have hnone (hp : p.clock = none) : finish = none := by
    cases finish with
    | none => rfl
    | some e =>
      have hsome := hclock rfl
      rw [hp] at hsome
      cases hsome
  have htimed : Follows OpensNext timed := by
    cases hp : p.clock with
    | none =>
      have htext : timed = behind := by
        simp only [timed, hp, hnone hp, endText, Option.map_none, spaced, List.nil_append]
      rw [htext]
      exact hbehind.mono fun c => OpensMark.next
    | some c =>
      obtain ⟨d, t, hd, hdigit⟩ := c.exists_text
      have hopens : OpensNext d := ⟨isGap_of_isDigit hdigit, isDayChar_of_isDigit hdigit⟩
      have htext : timed = ' ' :: d :: (t ++ (endText finish ++ behind)) := by
        simp only [timed, hp, hd, Option.map_some, spaced, List.cons_append]
      rw [htext]
      exact Follows.space hopens _
  have hclocks : clocks timed = (p.clock.map (·.text), finish.map (·.text), behind) := by
    cases hp : p.clock with
    | none =>
      simp only [timed, hp, hnone hp, endText, Option.map_none, spaced, List.nil_append]
      exact clocks_none hbehind
    | some c =>
      simp only [timed, hp, Option.map_some, spaced, List.cons_append]
      exact clocks_text c finish hbehind
  have hday : skipDay (spaced (p.day.map (·.text)) ++ timed) = timed := by
    cases hp : p.day with
    | none => exact skipDay_none htimed
    | some d => exact skipDay_name d htimed
  -- The suffix ends with the first bracket.
  have hplain : ∀ c ∈ s, (!isBracket c) = true := fun c hc => by rw [hs.plain c hc]; rfl
  have hstop : (!isBracket (closeMark active)) = false := by
    rw [isBracket_closeMark]
    rfl
  obtain ⟨htake, hdrop⟩ : behind.takeWhile (!isBracket ·) = s ∧
      behind.dropWhile (!isBracket ·) = closeMark active :: rest :=
    takeWhile_stop hplain hstop rest
  have htext : bracketed active p finish s ++ rest = openMark active ::
      (p.date.text ++ (spaced (p.day.map (·.text)) ++ timed)) := by
    simp [bracketed, Point.text, timed, behind]
  rw [htext, written?, if_pos (by simpa using hopen), p.date.date?_text p.year_le]
  simp only [Option.bind_eq_bind, Option.bind_some, hday, hclocks, hdrop, htake]
  rw [if_pos (by simpa using hclose)]

end Form

end Stamp

end OutlineTables
