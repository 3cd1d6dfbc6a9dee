import OutlineTables.Outline.Token

/-!
Note templates: literal text with holes for timestamps, values and names. A template describes a
header if the header can be cut into segments, one for each part.
-/
namespace OutlineTables

/-- What a hole of a template stands for. -/
inductive Hole where
  | inactiveStamp
  | activeStamp
  | inactiveDate
  | activeDate
  | newValue
  | oldValue
  | userWord
  | userName
deriving DecidableEq, Repr

namespace Hole

def letter : Hole → Char
  | inactiveStamp => 't'
  | activeStamp => 'T'
  | inactiveDate => 'd'
  | activeDate => 'D'
  | newValue => 's'
  | oldValue => 'S'
  | userWord => 'u'
  | userName => 'U'

def all : List Hole :=
  [inactiveStamp, activeStamp, inactiveDate, activeDate, newValue, oldValue, userWord, userName]

def ofLetter? (c : Char) : Option Hole := all.find? (·.letter = c)

theorem ofLetter?_letter (h : Hole) : ofLetter? h.letter = some h := by cases h <;> decide

def isTime : Hole → Bool
  | inactiveStamp | activeStamp | inactiveDate | activeDate => true
  | _ => false

def isUser : Hole → Bool
  | userWord | userName => true
  | _ => false

end Hole

/-- A part of a template; a run of white space stands for any other one. -/
inductive Part where
  | literal (c : Char)
  | blanks
  | hole (h : Hole)
deriving DecidableEq, Repr

/-- The beginnings of a text that lie in a class, from the shortest on, each with its rest. -/
def Text.runs (p : Char → Bool) : Text → List (Text × Text)
  | [] => [([], [])]
  | c :: cs =>
    ([], c :: cs) :: if p c then (runs p cs).map fun (w, rest) => (c :: w, rest) else []

/-- A date between two brackets with at most one word behind it, and what follows. -/
def Text.dateStamp? (open' close : Char) (t : Text) : Option (Text × Text) := do
  let t ← after? [open'] t
  let (d, t) ← date? t
  match after? [close] t with
  | some rest => some (open' :: d ++ [close], rest)
  | none =>
    let isDay := fun c => c ≠ close && !isBlank c && !isDigit c
    let t ← after? [' '] t
    let day := t.takeWhile isDay
    if day.isEmpty then none
    else
      let rest ← after? [close] (t.dropWhile isDay)
      some (open' :: d ++ ' ' :: day ++ [close], rest)

namespace Part

open Text

/-- The segments that a part may take at the head of a text, the preferred ones first: values and
full names as short as possible, single words and white space as long as possible. -/
def choices : Part → Text → List (Text × Text)
  | literal c, t =>
    match t with
    | d :: rest => if d = c then [([c], rest)] else []
    | [] => []
  | blanks, t => ((runs isBlank t).drop 1).reverse
  | hole .inactiveStamp, t => (stamp? '[' ']' t).toList
  | hole .activeStamp, t => (stamp? '<' '>' t).toList
  | hole .inactiveDate, t => (dateStamp? '[' ']' t).toList
  | hole .activeDate, t => (dateStamp? '<' '>' t).toList
  | hole .newValue, t | hole .oldValue, t => runs (· ≠ '\n') t
  | hole .userWord, t => ((runs (!isBlank ·) t).drop 1).reverse
  | hole .userName, t => (runs (· ≠ '\n') t).drop 1

end Part

/-- The segment that a hole took, and its place in the header. -/
structure Capture where
  hole : Hole
  text : Text
  start : Nat
deriving DecidableEq, Repr

abbrev Template := List Part

namespace Template

open Text

/-- The hole behind a percent sign, and the characters it takes: a minus sign and a width are
allowed before the letter. -/
def hole? (t : Text) : Option (Hole × Nat) :=
  let t' := match t with
    | '-' :: r => r
    | r => r
  match t'.dropWhile isDigit with
  | c :: rest => (Hole.ofLetter? c).map fun h => (h, t.length - rest.length)
  | [] => none

/-- White space in front of parts; runs of it merge. -/
def addBlank : Template → Template
  | .blanks :: ps => .blanks :: ps
  | ps => .blanks :: ps

/-- The parts of a template text behind its first `skip` characters. -/
def partsFrom : Nat → Text → Template
  | _, [] => []
  | skip + 1, _ :: cs => partsFrom skip cs
  | 0, c :: cs =>
    if c = '%' then
      match hole? cs with
      | some (h, n) => .hole h :: partsFrom n cs
      | none => .literal c :: partsFrom 0 cs
    else if isBlank c then addBlank (partsFrom 0 cs)
    else .literal c :: partsFrom 0 cs

def ofText (t : Text) : Template := partsFrom 0 t

def holes (t : Template) : List Hole :=
  t.filterMap fun
    | .hole h => some h
    | _ => none

/-- The end of a header; one line feed may follow. -/
def isEnd (t : Text) : Bool := t.isEmpty || t = ['\n']

/-- The captures of the first cut of a header into segments, compared from left to right. -/
def matchFrom? : Template → Nat → Text → Option (List Capture)
  | [], _, t => if isEnd t then some [] else none
  | p :: ps, pos, t =>
    (p.choices t).findSome? fun (w, rest) =>
      (matchFrom? ps (pos + w.length) rest).map fun cs =>
        -- Only what holes take is kept.
        match p with
        | .hole h => ⟨h, w, pos⟩ :: cs
        | _ => cs

def match? (t : Template) (header : Text) : Option (List Capture) := t.matchFrom? 0 header

end Template

end OutlineTables
