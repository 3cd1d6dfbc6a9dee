import OutlineTables.Stamp.Basic
import OutlineTables.Text.Blank

/-!
Timestamps read from text. A stamp stands in `<>` or `[]`; two of them joined by `--` are a range.
-/
namespace OutlineTables

namespace Text

/-- The first `n` characters, if they are all digits, and what follows them. -/
def digits? : Nat → Text → Option (Text × Text)
  | 0, t => some ([], t)
  | _ + 1, [] => none
  | n + 1, c :: cs =>
    if isDigit c then (digits? n cs).map fun (ds, rest) => (c :: ds, rest) else none

/-- A date such as `2024-02-29` at the head of the text, and what follows it. -/
def date? (t : Text) : Option (Text × Text) := do
  let (y, t) ← digits? 4 t
  let t ← after? ['-'] t
  let (m, t) ← digits? 2 t
  let t ← after? ['-'] t
  let (d, t) ← digits? 2 t
  some (y ++ '-' :: m ++ '-' :: d, t)

/-- A time of day such as `9:30` at the head of the text, and what follows it. -/
def clock? (t : Text) : Option (Text × Text) := do
  let (h, t) ← (digits? 2 t).or (digits? 1 t)
  let t ← after? [':'] t
  let (m, t) ← digits? 2 t
  some (h ++ ':' :: m, t)

/-- What follows one or more spaces and tabs. -/
def afterGap? : Text → Option Text
  | [] => none
  | c :: cs => if isGap c then some (cs.dropWhile isGap) else none

end Text

namespace Stamp

open Text

def isBracket (c : Char) : Bool := c = '<' || c = '>' || c = '[' || c = ']'

/-- Characters of a day name. -/
def isDayChar (c : Char) : Bool :=
  !isBlank c && !isDigit c && !isBracket c && c ≠ '+' && c ≠ '.' && c ≠ '-'

/-- One bracketed stamp by its written parts. -/
structure Written where
  openMark : Char
  date : Text
  clock : Option Text
  endClock : Option Text
  suffix : Text
  closeMark : Char
deriving DecidableEq, Repr

/-- The text behind a day name, if there is one. -/
def skipDay (t : Text) : Text :=
  match afterGap? t with
  | some (c :: cs) => if isDayChar c then cs.dropWhile isDayChar else t
  | _ => t

/-- A time of day behind a gap, and the end of a time range behind it. -/
def clocks (t : Text) : Option Text × Option Text × Text :=
  match (afterGap? t).bind clock? with
  | none => (none, none, t)
  | some (start, rest) =>
    match (after? ['-'] rest).bind clock? with
    | none => (some start, none, rest)
    | some (finish, rest) => (some start, some finish, rest)

/-- One stamp at the head of the text, and what follows it. -/
def written? : Text → Option (Written × Text)
  | [] => none
  | o :: t =>
    if o = '<' || o = '[' then do
      let (date, t) ← date? t
      let (clock, endClock, t) := clocks (skipDay t)
      match t.dropWhile (!isBracket ·) with
      | c :: rest =>
        if c = '>' || c = ']' then
          some (⟨o, date, clock, endClock, t.takeWhile (!isBracket ·), c⟩, rest)
        else none
      | [] => none
    else none

/-- One stamp, or two joined by `--`, that make up the whole text. -/
def writtenRange? (t : Text) : Option (Written × Option Written) := do
  let (first, rest) ← written? t
  if rest.isEmpty then some (first, none)
  else
    let (second, rest) ← (after? ['-', '-'] rest).bind written?
    if rest.isEmpty then some (first, some second) else none

/-- The bracket that closes an opening one. -/
def closing (o : Char) : Char := if o = '<' then '>' else ']'

/-- The count of a repeater or warning as it is written, behind `mark`. -/
def counted? (mark t : Text) : Option (Text × TimeUnit × Text) := do
  let t ← after? mark t
  let ds := t.takeWhile isDigit
  if ds.isEmpty then none
  else
    match t.dropWhile isDigit with
    | u :: rest => (TimeUnit.ofLetter? u).map fun unit => (ds, unit, rest)
    | [] => none

/-- A repeater word: a mark, a count and a unit, and maybe a slash with a second period. -/
def repeaterWord? (t : Text) : Option (RepeatKind × Text × TimeUnit) :=
  [RepeatKind.restart, .catchUp, .cumulate].findSome? fun kind => do
    let (ds, unit, rest) ← counted? kind.mark t
    if rest.isEmpty then some (kind, ds, unit)
    else
      let (_, _, rest) ← counted? ['/'] rest
      if rest.isEmpty then some (kind, ds, unit) else none

/-- A warning word: a mark, a count and a unit. -/
def warningWord? (t : Text) : Option (WarningKind × Text × TimeUnit) :=
  [WarningKind.first, .all].findSome? fun kind => do
    let (ds, unit, rest) ← counted? kind.mark t
    if rest.isEmpty then some (kind, ds, unit) else none

/-- The first repeater and the first warning among the words; other words count nothing. -/
def readMarks : Option Repeater → Option Warning → List Text →
    Except NumeralFault (Option Repeater × Option Warning)
  | r, w, [] => .ok (r, w)
  | r, w, t :: ts =>
    match r, repeaterWord? t with
    | none, some (kind, ds, unit) => do
      let n ← Numeral.read ds
      readMarks (some ⟨kind, n, unit⟩) w ts
    | _, _ =>
      match w, warningWord? t with
      | none, some (kind, ds, unit) => do
        let n ← Numeral.read ds
        readMarks r (some ⟨kind, n, unit⟩) ts
      | _, _ => readMarks r w ts

/-- Repeater and warning of what follows the date and time of a stamp. -/
def readSuffix (t : Text) : Except NumeralFault (Option Repeater × Option Warning) :=
  readMarks none none (words isBlank t)

/-- The seconds of a written date and time; midnight if no time is written. -/
def readMoment (date : Text) (clock : Option Text) : Except StampFault Moment :=
  let (y, rest) := cutAt '-' date
  let (m, d) := cutAt '-' rest
  let (h, mi) := cutAt ':' (clock.getD [])
  match Calendar.epoch (Numeral.value y) (Numeral.value m) (Numeral.value d) (Numeral.value h)
      (Numeral.value mi) with
  | .ok s => .ok ⟨s, clock.isSome⟩
  | .error f => .error (.date date clock f)

/-- The timestamp that the text writes, white space at its ends aside. -/
def decode (raw : Text) : Except StampFault Stamp :=
  let t := strip raw
  match writtenRange? t with
  | none => .error (.shape raw)
  | some (a, b) =>
    -- Of a range only the first stamp is held to its brackets.
    if closing a.openMark ≠ a.closeMark then .error (.brackets raw)
    else do
      let start ← readMoment a.date a.clock
      let finish ←
        match b, a.endClock with
        -- The second stamp of a range goes before the end of a time range.
        | some b, _ => (readMoment b.date b.clock).map some
        | none, some clock => (readMoment a.date (some clock)).map some
        | none, none => .ok none
      match readSuffix a.suffix with
      | .error f => .error (.numeral f)
      | .ok (r, w) =>
        .ok { raw := t, active := a.openMark = '<', start, finish, repeater := r, warning := w }

/-- The timestamp of a text, or none if the text is no timestamp or names no date. -/
def decode? (raw : Text) : Except NumeralFault (Option Stamp) :=
  match decode raw with
  | .ok s => .ok (some s)
  | .error (.numeral f) => .error f
  | .error _ => .ok none

end Stamp

end OutlineTables
