import OutlineTables.Text.Blank
import OutlineTables.Text.WordChar

/-!
The parameters of an action in a tag: the name of a handler with values in parentheses, or a value.
-/
namespace OutlineTables.Markup

/-- The digits of a number and of its fraction; what follows them. -/
def number? (t : Text) : Option Text :=
  let whole := t.takeWhile Char.isDigit
  match t.dropWhile Char.isDigit with
  | '.' :: rest =>
    let fraction := rest.takeWhile Char.isDigit
    if whole.isEmpty && fraction.isEmpty then none else some (rest.drop fraction.length)
  | rest =>
    -- Only zero starts with a zero.
    if whole.isEmpty || (whole.head? = some '0' && !whole.all (· = '0')) then none else some rest

/-- What follows a quoted text, of which the first quote is read. -/
def quoted? (q : Char) : Text → Option Text
  | [] => none
  | '\\' :: _ :: cs => quoted? q cs
  | c :: cs => if c = q then some cs else if c = '\n' then none else quoted? q cs

/-- The words that are values. -/
def valueWords : List String := ["None", "True", "False"]

mutual

/-- What follows a value: a number, a quoted text, a word or values in parentheses. Each unit of
fuel admits one more of them. -/
def value? : Nat → Text → Option Text
  | 0, _ => none
  | fuel + 1, t =>
    match t.dropWhile Text.isBlank with
    | '(' :: rest => values? fuel rest
    | '\'' :: rest => quoted? '\'' rest
    | '"' :: rest => quoted? '"' rest
    | '-' :: rest | '+' :: rest => number? (rest.dropWhile Text.isBlank)
    | t =>
      let word := t.takeWhile Text.isWordChar
      if valueWords.any (·.toList = word) then some (t.drop word.length) else number? t

/-- What follows values with commas between them and a closing parenthesis. -/
def values? : Nat → Text → Option Text
  | 0, _ => none
  | fuel + 1, t =>
    match t.dropWhile Text.isBlank with
    | ')' :: rest => some rest
    | t =>
      match (value? fuel t).map (·.dropWhile Text.isBlank) with
      | some (',' :: rest) => values? fuel rest
      | some (')' :: rest) => some rest
      | _ => none

end

/-- Whether the whole text is a value. -/
def isValue (t : Text) : Bool := (value? (2 * t.length + 1) t).any Text.isBlankLine

/-- Parameters of an action: the name of a handler, which may have values in parentheses, or one
value. -/
def isAction (t : Text) : Bool :=
  let t := Text.strip t
  match t.dropWhile fun c => Text.isWordChar c || c = '.' with
  | [] => true
  | '(' :: rest =>
    let values := '(' :: rest
    if rest.getLast? = some ')' && !rest.contains '\n' then isValue values else isValue t
  | _ => isValue t

end OutlineTables.Markup
