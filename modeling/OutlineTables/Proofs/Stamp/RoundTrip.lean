import OutlineTables.Proofs.Stamp.Marks

/-!
Timestamps read back. Whatever components a timestamp has, it is read as these components, and the
moments that it names come in the order of their dates and times.
-/
namespace OutlineTables

namespace Calendar.Date

theorem epoch_eq (a : Date) {h mi : Nat} (hy : a.year ≤ 9999)
    (hlate : ¬(a.year = 1 ∧ a.month = 1 ∧ a.day = 1)) (hh : h < 24) (hm : mi < 60) :
    Calendar.epoch a.year a.month a.day h mi = .ok (86400 * a.number + 3600 * h + 60 * mi) := by
  have hyear := a.year_pos
  have hmonth := a.month_pos
  have hmonth' := a.month_le
  have hday := a.day_pos
  have hday' := a.day_le
  have hvalid : fault? a.year a.month a.day h mi = none := by
    unfold fault?
    rw [if_neg (by omega), if_neg (by omega), if_neg (by omega), if_neg (by omega),
      if_neg (by omega)]
  unfold Calendar.epoch
  rw [hvalid]
  exact if_neg hlate

end Calendar.Date

namespace Stamp

open Text

theorem not_mem_padded {k n : Nat} {c : Char} (hc : c.isDigit = false) :
    c ∉ Numeral.padded k n := by
  intro hmem
  rw [Numeral.isDigit_of_mem_padded hmem] at hc
  cases hc

namespace Point

variable {p q : Point}

theorem hour_lt (p : Point) : p.hour < 24 := by
  unfold hour
  cases p.clock with
  | none => exact Nat.zero_lt_succ 23
  | some c => exact c.hour_lt

theorem minute_lt (p : Point) : p.minute < 60 := by
  unfold minute
  cases p.clock with
  | none => exact Nat.zero_lt_succ 59
  | some c => exact c.minute_lt

/-- The date of a point is read, at whatever time of the day. -/
theorem readMoment_text (p : Point) (c : Option ClockTime) :
    readMoment p.date.text (c.map (·.text)) = .ok (Form.moment p.date c) := by
  have hdash : ('-' : Char).isDigit = false := by decide
  have hyear : cutAt '-' p.date.text = (Numeral.padded 4 p.date.year,
      Numeral.padded 2 p.date.month ++ '-' :: Numeral.padded 2 p.date.day) := by
    unfold Calendar.Date.text
    rw [List.append_assoc]
    exact cutAt_append (not_mem_padded hdash) _
  have hmonth : cutAt '-' (Numeral.padded 2 p.date.month ++ '-' :: Numeral.padded 2 p.date.day) =
      (Numeral.padded 2 p.date.month, Numeral.padded 2 p.date.day) :=
    cutAt_append (not_mem_padded hdash) _
  unfold readMoment
  rw [hyear]
  dsimp only
  rw [hmonth]
  dsimp only
  rw [Numeral.value_padded, Numeral.value_padded, Numeral.value_padded]
  cases c with
  | none =>
    have hepoch : Calendar.epoch p.date.year p.date.month p.date.day 0 0 =
        .ok (86400 * p.date.number + 3600 * (0 : Nat) + 60 * (0 : Nat)) :=
      p.date.epoch_eq p.year_le p.late (by omega) (by omega)
    have hzero : Numeral.value [] = 0 := by decide
    simp only [Option.map_none, Option.getD_none, cutAt, hzero, hepoch]
    rfl
  | some c =>
    have hepoch := p.date.epoch_eq p.year_le p.late c.hour_lt c.minute_lt
    have hcolon : cutAt ':' c.text = (c.hourText, Numeral.padded 2 c.minute) := by
      apply cutAt_append
      intro hmem
      exact absurd (c.isDigit_hourText ':' hmem) (by decide)
    simp only [Option.map_some, Option.getD_some, hcolon, c.value_hourText, Numeral.value_padded,
      hepoch]
    rfl

/-- A later date or time is a later moment. -/
theorem seconds_lt (h : p.Before q) :
    (Form.moment p.date p.clock).seconds < (Form.moment q.date q.clock).seconds := by
  have hhour := p.hour_lt
  have hminute := p.minute_lt
  have hp : (Form.moment p.date p.clock).seconds =
      86400 * p.date.number + 3600 * p.hour + 60 * p.minute := rfl
  have hq : (Form.moment q.date q.clock).seconds =
      86400 * q.date.number + 3600 * q.hour + 60 * q.minute := rfl
  rw [hp, hq]
  rcases h with hdate | ⟨hdate, htime⟩
  · have hday := Calendar.Date.number_lt_of_before hdate
    omega
  · rw [hdate]
    omega

end Point

namespace Form

variable (f : Form)

theorem closing_openMark (active : Bool) : closing (openMark active) = closeMark active := by
  cases active <;> rfl

/-- A timestamp stands between its brackets. -/
theorem exists_text : ∃ inside, f.text = openMark f.active :: (inside ++ [closeMark f.active]) := by
  unfold text second
  cases f.ending with
  | point p =>
    refine ⟨f.first.text ++ (endText f.endClock ++ (f.suffix ++ [closeMark f.active])) ++
      '-' :: '-' :: openMark f.active :: p.text, ?_⟩
    simp [bracketed, endText]
  | none =>
    refine ⟨f.first.text ++ (endText f.endClock ++ f.suffix), ?_⟩
    simp [bracketed]
  | clock c =>
    refine ⟨f.first.text ++ (endText f.endClock ++ f.suffix), ?_⟩
    simp [bracketed]

theorem strip_text : strip f.text = f.text := by
  obtain ⟨inside, htext⟩ := f.exists_text
  have hopen : isBlank (openMark f.active) = false := by cases f.active <;> decide
  have hclose : isBlank (closeMark f.active) = false := by cases f.active <;> decide
  rw [htext]
  exact strip_framed hopen hclose inside

/-- The first date and its time, as they are read. -/
def written : Written where
  openMark := openMark f.active
  date := f.first.date.text
  clock := f.first.clock.map (·.text)
  endClock := f.endClock.map (·.text)
  suffix := f.suffix
  closeMark := closeMark f.active

/-- The second date and its time. -/
def written₂ : Option Written :=
  match f.ending with
  | .point p =>
    some ⟨openMark f.active, p.date.text, p.clock.map (·.text), none, [], closeMark f.active⟩
  | _ => none

theorem writtenRange?_text : writtenRange? f.text = some (f.written, f.written₂) := by
  have hclock : f.endClock.isSome = true → f.first.clock.isSome = true := by
    intro hsome
    unfold endClock at hsome
    split at hsome
    · rename_i c hc
      exact f.clocked c hc
    · cases hsome
  have hfirst : written? f.text = some (f.written, f.second) :=
    written?_bracketed f.active f.first hclock f.suffix_suffix f.second
  unfold writtenRange?
  rw [hfirst]
  simp only [Option.bind_eq_bind, Option.bind_some]
  unfold second written₂
  cases f.ending with
  | point p =>
    have hdashes : after? ['-', '-'] ('-' :: '-' :: bracketed f.active p none []) =
        some (bracketed f.active p none []) := after?_append ['-', '-'] _
    have hnone : (none : Option ClockTime).isSome = true → p.clock.isSome = true :=
      fun h => absurd h Bool.false_ne_true
    have hsecond : written? (bracketed f.active p none [] ++ []) = some (⟨openMark f.active,
        p.date.text, p.clock.map (·.text), none, [], closeMark f.active⟩, []) :=
      written?_bracketed f.active p hnone suffix_nil []
    rw [List.append_nil] at hsecond
    simp only [hdashes, hsecond, Option.bind_some]
    rfl
  | none => rfl
  | clock c => rfl

theorem readFinish_written : readFinish f.written f.written₂ = .ok f.stamp.finish := by
  unfold readFinish written₂ written stamp endClock
  cases f.ending with
  | none => rfl
  | clock c =>
    have hread := f.first.readMoment_text (some c)
    exact congrArg (Except.map some) hread
  | point p =>
    have hread := p.readMoment_text p.clock
    exact congrArg (Except.map some) hread

theorem decode_text_eq : decode f.text = .ok f.stamp := by
  have hwritten : writtenRange? (strip f.text) = some (f.written, f.written₂) := by
    rw [f.strip_text]
    exact f.writtenRange?_text
  have hclosed : closing f.written.openMark = f.written.closeMark := closing_openMark f.active
  have hstart : readMoment f.written.date f.written.clock = .ok f.stamp.start :=
    f.first.readMoment_text f.first.clock
  have hsuffix : readSuffix f.written.suffix = .ok (f.repeater, f.warning) := f.readSuffix_suffix
  have hactive : decide (f.written.openMark = '<') = f.active := by
    unfold written openMark
    cases f.active <;> rfl
  rw [decode_eq hwritten, if_neg (not_not.mpr hclosed), hstart, f.readFinish_written, hsuffix,
    f.strip_text, hactive]
  rfl

/-- Whatever components a timestamp has, its text is read as these, with the days counted from
1970-01-01 on; and a timestamp of a later date and time begins at a later moment. -/
theorem decode_text : (∀ f : Form, decode f.text = .ok f.stamp) ∧
    (∀ (a : Calendar.Date) (n : Int), a.Counted n ↔ n = a.number) ∧
    ∀ f g : Form, f.first.Before g.first → f.stamp.start.seconds < g.stamp.start.seconds :=
  ⟨decode_text_eq, fun _ _ => Calendar.Date.counted_iff, fun _ _ h => Point.seconds_lt h⟩

def leapDay : Calendar.Date := ⟨2024, 2, 29, by decide, by decide, by decide, by decide, by decide⟩

/-- An hour of a leap day, every week, with a warning two days before. -/
def weekly : Form where
  active := true
  first :=
    { date := leapDay
      day := some ⟨['T', 'h', 'u'], by decide, List.all_eq_true.mp (by decide)⟩
      clock := some ⟨9, 30, true, by omega, by omega⟩
      year_le := by decide
      late := by decide }
  ending := .clock ⟨10, 30, true, by omega, by omega⟩
  repeater := some ⟨.restart, 1, .week⟩
  warning := some ⟨.first, 2, .day⟩
  clocked := fun _ _ => rfl
  repeater_short := by
    intro r h
    cases h
    decide
  warning_short := by
    intro w h
    cases h
    decide

/-- From a leap day to a day before 1970. -/
def backwards : Form where
  active := false
  first :=
    { date := leapDay
      day := none
      clock := some ⟨9, 31, false, by omega, by omega⟩
      year_le := by decide
      late := by decide }
  ending := .point
    { date := ⟨1969, 11, 30, by decide, by decide, by decide, by decide, by decide⟩
      day := none
      clock := none
      year_le := by decide
      late := by decide }
  repeater := none
  warning := none
  clocked := by
    intro c h
    cases h
  repeater_short := by
    intro r h
    cases h
  warning_short := by
    intro w h
    cases h

theorem decode_text_weekly :
    decode weekly.text = .ok weekly.stamp ∧
      weekly.text = "<2024-02-29 Thu 9:30-10:30 .+1w --2d>".toList ∧
      weekly.stamp.finish = some ⟨1709202600, true⟩ ∧
    decode backwards.text = .ok backwards.stamp ∧
      backwards.text = "[2024-02-29 09:31]--[1969-11-30]".toList ∧
      backwards.stamp.finish = some ⟨-2764800, false⟩ ∧
    weekly.first.Before backwards.first ∧
      weekly.stamp.start.seconds < backwards.stamp.start.seconds :=
  have hbefore : weekly.first.Before backwards.first := Or.inr ⟨rfl, Or.inr ⟨rfl, by decide⟩⟩
  ⟨decode_text.1 weekly, by decide, by decide, decode_text.1 backwards, by decide, by decide,
    hbefore, decode_text.2.2 weekly backwards hbefore⟩

end Form

end Stamp

end OutlineTables
