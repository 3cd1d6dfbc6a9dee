import OutlineTables.Logbook.Template
import OutlineTables.Options.Basic
import OutlineTables.Outline.Entry

/-!
Logbook records: notes classified by the first template that describes their header, and clocks.
-/
namespace OutlineTables

/-- A classified list item. -/
structure Note where
  type : Text
  offset : Int
  header : Text
  body : Option Text
  timeLogged : Option Int
  user : Option Text
  oldText : Option Text
  newText : Option Text
  oldState : Option Text
  newState : Option Text
  oldStamp : Option (Int × Stamp)
deriving DecidableEq, Repr

structure Clock where
  offset : Int
  start : Int
  finish : Option Int
  note : Option Text
deriving DecidableEq, Repr

inductive LogRecord where
  | note (n : Note)
  | clock (c : Clock)
deriving DecidableEq, Repr

/-- A type of note with its template. -/
structure NoteType where
  name : Text
  template : Template
deriving DecidableEq, Repr

namespace NoteType

def none : Text := "none".toList

def state : Text := "state".toList

/-- The types whose old value is a planning timestamp. -/
def planningChanges : List Text :=
  ["reschedule".toList, "delschedule".toList, "redeadline".toList, "deldeadline".toList]

def defaults : List (Text × Text) := [
  ("done".toList, "CLOSING NOTE %t".toList),
  ("state".toList, "State %-12s from %-12S %t".toList),
  ("note".toList, "Note taken on %t".toList),
  ("reschedule".toList, "Rescheduled from %S on %t".toList),
  ("delschedule".toList, "Not scheduled, was %S on %t".toList),
  ("redeadline".toList, "New deadline from %S on %t".toList),
  ("deldeadline".toList, "Removed deadline, was %S on %t".toList),
  ("refile".toList, "Refiled on %t".toList)]

/-- The list with the template of one type set, in place if the type is known. -/
def override (ts : List (Text × Text)) (name template : Text) : List (Text × Text) :=
  if ts.any (·.1 = name) then ts.map fun (k, t) => if k = name then (k, template) else (k, t)
  else ts ++ [(name, template)]

/-- The default types with others set or added, in the order in which they are tried. A blank
template switches its type off. -/
def all (custom : List (Text × Text)) : List NoteType :=
  ((custom.foldl (fun ts (k, t) => override ts k t) defaults).filter
    fun (_, t) => !(Text.strip t).isEmpty).map fun (k, t) => ⟨k, Template.ofText t⟩

/-- The first type that describes a header, with the captures of its template. -/
def match? (types : List NoteType) (header : Text) : Option (NoteType × List Capture) :=
  types.findSome? fun ty => (ty.template.match? header).map fun cs => (ty, cs)

end NoteType

namespace Note

open Text

/-- A text, or none if it is empty. -/
def nonempty? (t : Text) : Option Text := if t.isEmpty then none else some t

/-- The header without a line break mark of two backslashes at its end. -/
def cutBreak (t : Text) : Text :=
  match (stripEnd t).reverse with
  | '\\' :: '\\' :: r => strip r.reverse
  | _ => strip t

/-- The first line of an item, and the lines below it. -/
def split (t : Text) : Text × Option Text :=
  let (header, rest) := cutAt '\n' t
  (cutBreak header, nonempty? (strip rest))

/-- The text inside double quotes, or the text itself, and how far its start moved. -/
def unquote (t : Text) : Option Text × Nat :=
  let t := strip t
  match t, t.getLast? with
  | '"' :: _ :: _, some '"' => (nonempty? (t.drop 1).dropLast, 1)
  | _, _ => (nonempty? t, 0)

/-- The seconds of the first captured timestamp that is one. -/
def loggedAt : List Capture → Except NumeralFault (Option Int)
  | [] => .ok none
  | c :: cs =>
    if c.hole.isTime then do
      match ← Stamp.decode? c.text with
      | some s => .ok (some s.start.seconds)
      | none => loggedAt cs
    else loggedAt cs

def firstOf (h : Hole) (cs : List Capture) : Option Capture := cs.find? (·.hole = h)

/-- The timestamp in an old value, with its position in a header that starts at `pos`. -/
def stampOf (pos : Int) (c : Capture) : Except NumeralFault (Option (Int × Stamp)) :=
  match unquote c.text with
  | (some t, shift) => do
    let s ← Stamp.decode? t
    .ok (s.map fun s => (pos + c.start + shift, s))
  | (none, _) => .ok none

/-- A note of a type with what its header captured. -/
def ofCaptures (e : Entry) (type header : Text) (body : Option Text) (cs : List Capture) :
    Except NumeralFault Note := do
  let time ← loggedAt cs
  let old := firstOf .oldValue cs
  let new := firstOf .newValue cs
  let isState := type = NoteType.state
  let stamp ←
    match old with
    | some c =>
      if !isState && Text.isIn type NoteType.planningChanges then stampOf e.textOffset c
      else .ok none
    | none => .ok none
  .ok {
    type, header, body
    offset := e.offset
    timeLogged := time
    user := cs.findSome? fun c => if c.hole.isUser then nonempty? (strip c.text) else none
    oldText := old.map (·.text)
    newText := new.map (·.text)
    oldState := if isState then old.bind fun c => (unquote c.text).1 else none
    newState := if isState then new.bind fun c => (unquote c.text).1 else none
    oldStamp := stamp }

/-- The note that a list item is. -/
def ofEntry (types : List NoteType) (e : Entry) : Except NumeralFault Note :=
  let (header, body) := split e.text
  match NoteType.match? types header with
  | some (ty, cs) => ofCaptures e ty.name header body cs
  | none => ofCaptures e NoteType.none header body []

end Note

namespace Clock

open Text

/-- Text in square brackets, at least one character, and what follows. -/
def bracketed? (t : Text) : Option (Text × Text) := do
  let t ← after? ['['] t
  let (inside, rest) ← upTo? ']' t
  if inside.isEmpty then none else some ('[' :: inside ++ [']'], rest)

/-- One text in brackets or two joined by `--`, and what follows. -/
def range? (t : Text) : Option (Text × Text) := do
  let (a, rest) ← bracketed? t
  match (after? ['-', '-'] rest).bind bracketed? with
  | some (b, rest) => some (a ++ '-' :: '-' :: b, rest)
  | none => some (a, rest)

/-- A duration behind an arrow, such as `=> 1:30`. -/
def isDuration (t : Text) : Bool :=
  match after? ['=', '>'] (t.dropWhile isBlank) with
  | none => false
  | some t =>
    let t := t.dropWhile isBlank
    let t := (after? ['-'] t).getD t
    let hours := t.takeWhile isDigit
    match (after? [':'] (t.dropWhile isDigit)).bind (digits? 2) with
    | some (_, rest) => !hours.isEmpty && isBlankLine rest
    | none => false

/-- The timestamp of a clock line, if the line has the form of one. -/
def stampText? (t : Text) : Option Text := do
  let t ← after? "CLOCK:".toList (strip t)
  let (ts, rest) ← range? (t.dropWhile isBlank)
  if isBlankLine rest || isDuration rest then some ts else none

/-- The clock of an entry; a malformed one is none. -/
def ofEntry? (e : Entry) : Except NumeralFault (Option Clock) :=
  match stampText? e.text with
  | none => .ok none
  | some t => do
    let s ← Stamp.decode? t
    .ok (s.map fun s => ⟨e.offset, s.start.seconds, s.finish.map (·.seconds), none⟩)

end Clock

namespace LogRecord

/-- The clock that still waits for a note, as a record. -/
def pending (c : Option Clock) : List LogRecord := (c.map clock).toList

/-- Records of entries, behind a clock that may still get a note: an item of no type directly
behind a clock is its note. -/
def classifyAfter (types : List NoteType) :
    Option Clock → List Entry → Except NumeralFault (List LogRecord)
  | waiting, [] => .ok (pending waiting)
  | waiting, e :: es =>
    match e.kind with
    | .clock => do
      let c ← Clock.ofEntry? e
      let rs ← classifyAfter types c es
      .ok (pending waiting ++ rs)
    | .item => do
      let n ← Note.ofEntry types e
      match waiting with
      | some c =>
        if n.type = NoteType.none then
          let rs ← classifyAfter types none es
          .ok (clock { c with note := some (Text.strip e.text) } :: rs)
        else
          let rs ← classifyAfter types none es
          .ok (clock c :: note n :: rs)
      | none =>
        let rs ← classifyAfter types none es
        .ok (note n :: rs)

/-- Records of entries in their order. -/
def classify (types : List NoteType) (es : List Entry) : Except NumeralFault (List LogRecord) :=
  classifyAfter types none es

end LogRecord

end OutlineTables
