import OutlineTables.Outline.Basic
import OutlineTables.Outline.Line
import OutlineTables.Text.WordChar

/-!
Clock lines and list items. An item goes on with the lines that are indented deeper than its
bullet.
-/
namespace OutlineTables

namespace Text

/-- The end of a drawer, in any case of letters. -/
def isDrawerEnd (t : Text) : Bool :=
  (trim isGap t).map Char.toUpper = ":END:".toList

/-- The name of the drawer that the line opens, and the indentation of the line. -/
def drawerStart? (t : Text) : Option (Text × Nat) :=
  match t.dropWhile isGap with
  | ':' :: t' =>
    let isNameChar := fun c => isWordChar c || c = '-'
    let name := t'.takeWhile isNameChar
    match t'.dropWhile isNameChar with
    | ':' :: rest => if !name.isEmpty && rest.all isGap then some (name, indent t) else none
    | _ => none
  | _ => none

end Text

namespace Entry

open Text

/-- The clock that a line writes. -/
def clock? (l : Line) : Option Entry :=
  if (after? "CLOCK:".toList (l.text.dropWhile isGap)).isSome then
    let pos := l.offset + indent l.text
    some ⟨.clock, pos, pos, strip l.text⟩
  else none

/-- The item that a line begins, with its indentation. -/
def item? (l : Line) : Option (Nat × Entry) :=
  let n := indent l.text
  match l.text.dropWhile isGap with
  | [] => none
  | b :: t =>
    if b = '-' || b = '+' then
      match t with
      | [] => some (n, ⟨.item, l.offset + n, l.offset + n + 1, []⟩)
      | c :: _ =>
        if isGap c then
          some (n, ⟨.item, l.offset + n, l.offset + n + 1 + indent t, stripEnd (t.dropWhile isGap)⟩)
        else none
    else none

/-- Whether a line begins an entry wherever it stands. -/
def begins (l : Line) : Bool := (clock? l).isSome || (item? l).isSome

/-- The entry with one more line. -/
def extend (e : Entry) (t : Text) : Entry := { e with text := e.text ++ '\n' :: strip t }

/-- The item that is being read, with the indentation of its bullet. -/
abbrev Open := Option (Nat × Entry)

/-- The item that is being read, as the only entry. -/
def closeItem : Open → List Entry
  | some (_, e) => [e]
  | none => []

/-- The item that a line begins while another one is being read: a deeper bullet begins none. -/
def sibling? (current : Open) (l : Line) : Option (Nat × Entry) :=
  match item? l, current with
  | some (n, e), some (m, _) => if n ≤ m then some (n, e) else none
  | found, _ => found

/-- Reads entries up to a line for which `stop` holds. Other lines are passed over, or end the
reading if it is `strict`. What is not read is given back. -/
def readAll (stop : Text → Bool) (strict : Bool) : Open → List Line → List Entry × List Line
  | current, [] => (closeItem current, [])
  | current, l :: ls =>
    if stop l.text then (closeItem current, l :: ls)
    else
      match clock? l with
      | some e =>
        let r := readAll stop strict none ls
        (closeItem current ++ e :: r.1, r.2)
      | none =>
        match sibling? current l with
        | some item =>
          let r := readAll stop strict (some item) ls
          (closeItem current ++ r.1, r.2)
        | none =>
          match current with
          | some (n, e) =>
            -- Deeper lines belong to the item; a blank line never does.
            if !isBlankLine l.text && n < indent l.text then
              readAll stop strict (some (n, e.extend l.text)) ls
            else if strict then (closeItem current, l :: ls)
            else readAll stop strict current ls
          | none => if strict then ([], l :: ls) else readAll stop strict none ls

/-- What is not read is no longer than what was given. -/
theorem readAll_length_le (stop : Text → Bool) (strict : Bool) (current : Open) (ls : List Line) :
    (readAll stop strict current ls).2.length ≤ ls.length := by
  induction ls generalizing current with
  | nil => simp [readAll]
  | cons l ls ih =>
    unfold readAll
    repeat' split
    all_goals
      first
      | exact Nat.le_refl _
      | exact Nat.le_succ_of_le (ih _)

end Entry

end OutlineTables
