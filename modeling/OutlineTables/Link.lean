import OutlineTables.Outline.Token

/-!
Links by type, path and description.
-/
namespace OutlineTables

structure Link where
  type : Text
  path : Text
  description : Text
deriving DecidableEq, Repr

namespace Link

open Text

def isSchemeChar (c : Char) : Bool := c.isAlphanum || c = '+' || c = '.' || c = '-'

/-- A scheme in front of a colon, and what follows it. -/
def scheme? (t : Text) : Option (Text × Text) :=
  match t with
  | [] => none
  | c :: cs =>
    if c.isAlpha then
      match cs.dropWhile isSchemeChar with
      | ':' :: rest => some (c :: cs.takeWhile isSchemeChar, rest)
      | _ => none
    else none

/-- The beginnings of file paths. -/
def pathStarts : List Text := [['/'], ['.', '/'], ['.', '.', '/'], ['~', '/']]

/-- The type and path of a target: a scheme, a custom id, a reference to code, a file, or a
search. -/
def ofTarget (target : Text) : Text × Text :=
  match scheme? target with
  | some (scheme, path) => (scheme, path)
  | none =>
    match target, target.getLast? with
    | '#' :: path, _ => ("custom-id".toList, path)
    | '(' :: inside, some ')' => ("coderef".toList, inside.dropLast)
    | _, _ =>
      if pathStarts.any fun p => (after? p target).isSome then ("file".toList, target)
      else ("fuzzy".toList, target)

/-- The link that a text writes, white space at its ends aside. -/
def ofText? (raw : Text) : Option Link :=
  match LinkText.read? (strip raw) with
  | some (l, []) =>
    let (type, path) := ofTarget (strip l.target)
    some ⟨type, path, l.description.getD []⟩
  | _ => none

end Link

end OutlineTables
