import OutlineTables.Proofs.Stamp.Days

/-!
Timestamps by their components, and the texts that write them, with single spaces between the
components.
-/
namespace OutlineTables

def Calendar.Date.text (a : Calendar.Date) : Text :=
  Numeral.padded 4 a.year ++ '-' :: Numeral.padded 2 a.month ++ '-' :: Numeral.padded 2 a.day

/-- A mark, a count and a unit. -/
def TimeUnit.period (mark : Text) (n : Nat) (unit : TimeUnit) : Text :=
  mark ++ Text.ofNat n ++ [unit.letter]

def Repeater.text (r : Repeater) : Text := TimeUnit.period r.kind.mark r.count r.unit

def Warning.text (w : Warning) : Text := TimeUnit.period w.kind.mark w.count w.unit

namespace Stamp

/-- The name of a day of the week. -/
structure DayName where
  text : Text
  nonempty : text ≠ []
  chars : ∀ c ∈ text, isDayChar c = true

/-- A time of day. A short one has its hour in one digit, if that is enough. -/
structure ClockTime where
  hour : Nat
  minute : Nat
  short : Bool
  hour_lt : hour < 24
  minute_lt : minute < 60

namespace ClockTime

def hourText (c : ClockTime) : Text :=
  if c.short then Text.ofNat c.hour else Numeral.padded 2 c.hour

def text (c : ClockTime) : Text := c.hourText ++ ':' :: Numeral.padded 2 c.minute

end ClockTime

/-- A date with the day of the week and the time, either of which may be missing. The first day of
the calendar is left out. -/
structure Point where
  date : Calendar.Date
  day : Option DayName
  clock : Option ClockTime
  year_le : date.year ≤ 9999
  late : ¬(date.year = 1 ∧ date.month = 1 ∧ date.day = 1)

/-- A component behind a space, if there is one. -/
def spaced : Option Text → Text
  | none => []
  | some t => ' ' :: t

namespace Point

def text (p : Point) : Text :=
  p.date.text ++ spaced (p.day.map (·.text)) ++ spaced (p.clock.map (·.text))

def hour (p : Point) : Nat := (p.clock.map (·.hour)).getD 0

def minute (p : Point) : Nat := (p.clock.map (·.minute)).getD 0

/-- The order of points by date and time; without a time it is midnight. -/
def Before (p q : Point) : Prop :=
  p.date.Before q.date ∨
    p.date = q.date ∧ (p.hour < q.hour ∨ p.hour = q.hour ∧ p.minute < q.minute)

end Point

/-- How a timestamp goes on behind its first time: not at all, up to a time of the same day, or up
to a second date. -/
inductive Ending where
  | none
  | clock (c : ClockTime)
  | point (p : Point)

/-- The components of a timestamp. -/
structure Form where
  active : Bool
  first : Point
  ending : Ending
  repeater : Option Repeater
  warning : Option Warning
  clocked : ∀ c, ending = Ending.clock c → first.clock.isSome = true
  repeater_short : ∀ r, repeater = some r → (Text.ofNat r.count).length ≤ Numeral.maxDigits
  warning_short : ∀ w, warning = some w → (Text.ofNat w.count).length ≤ Numeral.maxDigits

namespace Form

def openMark (active : Bool) : Char := if active then '<' else '['

def closeMark (active : Bool) : Char := if active then '>' else ']'

/-- The end of a time range on one day. -/
def endText : Option ClockTime → Text
  | none => []
  | some c => '-' :: c.text

def endClock (f : Form) : Option ClockTime :=
  match f.ending with
  | .clock c => some c
  | _ => none

def suffix (f : Form) : Text :=
  spaced (f.repeater.map (·.text)) ++ spaced (f.warning.map (·.text))

/-- A point between brackets, with what else stands there. -/
def bracketed (active : Bool) (p : Point) (finish : Option ClockTime) (suffix : Text) : Text :=
  openMark active :: (p.text ++ (endText finish ++ (suffix ++ [closeMark active])))

/-- The second timestamp of a range, behind two dashes. -/
def second (f : Form) : Text :=
  match f.ending with
  | .point p => '-' :: '-' :: bracketed f.active p none []
  | _ => []

def text (f : Form) : Text := bracketed f.active f.first f.endClock f.suffix ++ f.second

/-- The moment of a date and time, counted from 1970-01-01. -/
def moment (a : Calendar.Date) (c : Option ClockTime) : Moment where
  seconds := 86400 * a.number + 3600 * (c.map (·.hour)).getD 0 + 60 * (c.map (·.minute)).getD 0
  isLong := c.isSome

/-- The timestamp that has these components. -/
def stamp (f : Form) : Stamp where
  raw := f.text
  active := f.active
  start := moment f.first.date f.first.clock
  finish :=
    match f.ending with
    | .none => none
    | .clock c => some (moment f.first.date (some c))
    | .point p => some (moment p.date p.clock)
  repeater := f.repeater
  warning := f.warning

end Form

end Stamp

end OutlineTables
