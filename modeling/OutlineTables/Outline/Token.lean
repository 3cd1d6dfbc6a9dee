import OutlineTables.Outline.Basic
import OutlineTables.Outline.Line
import OutlineTables.Stamp.Reader

/-!
Timestamps, links and planning words inside a line.
-/
namespace OutlineTables

namespace Text

/-- Text up to a closing character, without a line feed, and what follows. -/
def upTo? (close : Char) (t : Text) : Option (Text × Text) :=
  let inside := fun c => c ≠ close && c ≠ '\n'
  match t.dropWhile inside with
  | c :: rest => if c = close then some (t.takeWhile inside, rest) else none
  | [] => none

/-- A date between two brackets with any text behind it, and what follows. -/
def stamp? (open' close : Char) (t : Text) : Option (Text × Text) := do
  let t ← after? [open'] t
  let (d, t) ← date? t
  let (body, rest) ← upTo? close t
  some (open' :: d ++ body ++ [close], rest)

/-- One such stamp, or two joined by `--`. -/
def stampRange? (open' close : Char) (t : Text) : Option Text := do
  let (a, rest) ← stamp? open' close t
  match (after? ['-', '-'] rest).bind (stamp? open' close) with
  | some (b, _) => some (a ++ '-' :: '-' :: b)
  | none => some a

/-- An active or an inactive timestamp. -/
def stampToken? (t : Text) : Option Text :=
  (stampRange? '<' '>' t).or (stampRange? '[' ']' t)

/-- Neither bracket. -/
def isPlain (c : Char) : Bool := c ≠ '[' && c ≠ ']'

end Text

/-- The written parts of a link in double brackets. -/
structure LinkText where
  target : Text
  description : Option Text
deriving DecidableEq, Repr

namespace LinkText

open Text

def render (l : LinkText) : Text :=
  match l.description with
  | none => '[' :: '[' :: l.target ++ [']', ']']
  | some d => '[' :: '[' :: l.target ++ ']' :: '[' :: d ++ [']', ']']

/-- A link at the head of the text, and what follows it. -/
def read? (t : Text) : Option (LinkText × Text) := do
  let t ← after? ['[', '['] t
  let target := t.takeWhile isPlain
  if target.isEmpty then none
  else
    let t ← after? [']'] (t.dropWhile isPlain)
    match t with
    | ']' :: rest => some (⟨target, none⟩, rest)
    | '[' :: t =>
      let rest ← after? [']', ']'] (t.dropWhile isPlain)
      some (⟨target, some (t.takeWhile isPlain)⟩, rest)
    | _ => none

end LinkText

namespace Text

def linkToken? (t : Text) : Option Text := (LinkText.read? t).map (·.1.render)

/-- A planning word with a colon, a gap and a timestamp: its kind, the length of what stands
before the timestamp, and the timestamp. -/
def planningToken? (t : Text) : Option (PlanningKind × Nat × Text) :=
  PlanningKind.all.findSome? fun kind => do
    let rest ← (after? kind.word t).bind (after? [':'])
    let stamp ← stampToken? (rest.dropWhile isGap)
    some (kind, kind.word.length + 1 + (rest.takeWhile isGap).length, stamp)

end Text

namespace Line

def excerpts (read? : Text → Option Text) (l : Line) : List Excerpt :=
  (Text.scan read? List.length l.offset 0 l.text).map fun (pos, t) => ⟨pos, t⟩

/-- The timestamps of a line. -/
def timestamps (l : Line) : List Excerpt := l.excerpts Text.stampToken?

/-- The links of a line. -/
def links (l : Line) : List Excerpt := l.excerpts Text.linkToken?

/-- The planning words of a line with their timestamps. -/
def planning (l : Line) : List Planning :=
  (Text.scan Text.planningToken? (fun p => p.2.1 + p.2.2.length) l.offset 0 l.text).map
    fun (pos, kind, lead, t) => ⟨kind, pos + lead, t⟩

/-- Whether a planning word opens the line. -/
def isPlanning (l : Line) : Bool :=
  let t := l.text.dropWhile Text.isGap
  PlanningKind.all.any fun kind => ((Text.after? kind.word t).bind (Text.after? [':'])).isSome

end Line

end OutlineTables
