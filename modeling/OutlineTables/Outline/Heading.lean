import OutlineTables.Outline.Basic
import OutlineTables.Outline.Line
import OutlineTables.Text.WordChar

/-!
Heading lines: stars, then an optional keyword, a priority, a comment mark, a title and tags.
-/
namespace OutlineTables

/-- A heading line by its level and what follows its stars. -/
structure Starred where
  offset : Int
  level : Nat
  rest : Text
deriving DecidableEq, Repr

namespace Starred

open Text

/-- Stars at the start of a line with a gap or nothing behind them. -/
def ofLine? (l : Line) : Option Starred :=
  let stars := l.text.takeWhile (· = '*')
  if stars.isEmpty then none
  else
    match l.text.dropWhile (· = '*') with
    | [] => some ⟨l.offset, stars.length, []⟩
    | c :: cs => if isGap c then some ⟨l.offset, stars.length, cs.dropWhile isGap⟩ else none

/-- The text up to its last gap, and the word behind it. -/
def lastWord : Text → Text × Text
  | [] => ([], [])
  | c :: cs =>
    match lastWord cs with
    | ([], w) => if isGap c then ([c], w) else ([], c :: w)
    | (front, w) => (c :: front, w)

def isTagChar (c : Char) : Bool := isWordChar c || c = '@' || c = '#' || c = '%'

/-- Tags closed by a colon each. -/
def closedTags? : List Text → Option (List Text)
  | [] => none
  | [last] => if last.isEmpty then some [] else none
  | tag :: more =>
    if !tag.isEmpty && tag.all isTagChar then (closedTags? more).map (tag :: ·) else none

/-- The tags of a word such as `:a:b:`. -/
def tagGroup? (w : Text) : Option (List Text) :=
  match w with
  | ':' :: t =>
    match closedTags? (pieces ':' t) with
    | some [] => none
    | tags => tags
  | _ => none

/-- What stands before the tags at the end, and the tags. -/
def cutTags (t : Text) : Text × List Text :=
  let (front, w) := lastWord (trimEnd isGap t)
  match tagGroup? w with
  | some tags => (front, tags)
  | none => (t, [])

/-- A keyword in front, up to the first space. -/
def cutKeyword (keywords : List Text) (t : Text) : Option Text × Text :=
  let (first, rest) := cutAt ' ' (strip t)
  if Text.isIn first keywords then (some first, rest) else (none, t)

/-- ASCII letters and digits. -/
def isPriorityChar (c : Char) : Bool := c.isAlphanum

/-- A priority such as `[#A]` in front. -/
def cutPriority : Text → Option Text × Text
  | '[' :: '#' :: c :: ']' :: t =>
    if isPriorityChar c then (some [c], t.dropWhile isGap) else (none, '[' :: '#' :: c :: ']' :: t)
  | t => (none, t)

/-- The mark of commented headings. -/
def commentWord : Text := "COMMENT".toList

/-- A comment mark in front, followed by a space or nothing. -/
def cutComment (t : Text) : Bool × Text :=
  match after? commentWord t with
  | some [] => (true, [])
  | some (' ' :: rest) => (true, ' ' :: rest)
  | _ => (false, t)

/-- The heading of a line, with an empty section. -/
def heading (keywords : List Text) (s : Starred) : Heading :=
  let (t, tags) := cutTags s.rest
  let (keyword, t) := cutKeyword keywords t
  let (priority, t) := cutPriority (strip t)
  let (commented, t) := cutComment t
  { offset := s.offset, level := s.level, title := strip t, keyword, priority, commented, tags,
    properties := [], planning := [], drawers := [], looseEntries := [], content := none,
    timestamps := [], links := [] }

end Starred

end OutlineTables
