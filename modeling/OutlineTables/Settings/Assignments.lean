import OutlineTables.Text.Blank

/-!
Files of assignments to variables: a name, an equals sign and a value on each line, with comments,
quoted values that may run over several lines, and references to variables set before.
-/
namespace OutlineTables.Assignments

open Text

/-- White space within a line. -/
def isInlineBlank (c : Char) : Bool := isBlank c && c ≠ '\n' && c ≠ '\r'

def isLineEnd (c : Char) : Bool := c = '\n' || c = '\r'

def skipInline (t : Text) : Text := t.dropWhile isInlineBlank

/-- The text after the word `export`, which may stand before a name. -/
def afterExport (t : Text) : Text :=
  match after? "export".toList t with
  | some (c :: rest) => if isInlineBlank c then skipInline rest else t
  | _ => t

/-- A name: up to the next single quote if it is quoted, else up to white space, an equals sign or
a hash. -/
def name? : Text → Option (Text × Text)
  | '\'' :: t =>
    match t.takeWhile (· ≠ '\''), t.dropWhile (· ≠ '\'') with
    | c :: cs, _ :: rest => some (c :: cs, rest)
    | _, _ => none
  | t =>
    let ends (c : Char) : Bool := c = '=' || c = '#' || isBlank c
    match t.takeWhile (!ends ·) with
    | [] => none
    | n => some (n, t.dropWhile (!ends ·))

/-- A quoted value after its opening quote, and what follows the closing one. A backslash always
belongs to the character behind it, which must stand on the same line. -/
def quoted? (q : Char) : Text → Option (Text × Text)
  | [] => none
  | [c] => if c = q then some ([], []) else none
  | c :: d :: t =>
    if c = q then some ([], d :: t)
    else if c = '\\' then
      if d = '\n' then none else (quoted? q t).map fun (v, rest) => (c :: d :: v, rest)
    else (quoted? q (d :: t)).map fun (v, rest) => (c :: v, rest)

def escapes : List (Char × Char) :=
  [('\\', '\\'), ('\'', '\''), ('"', '"'), ('a', '\x07'), ('b', '\x08'), ('f', '\x0c'),
    ('n', '\n'), ('r', '\r'), ('t', '\t'), ('v', '\x0b')]

/-- The value with its escapes replaced; inside single quotes only the first two are known. -/
def unescape (known : List (Char × Char)) : Text → Text
  | [] => []
  | [c] => [c]
  | c :: d :: t =>
    if c = '\\' then
      match known.lookup d with
      | some e => e :: unescape known t
      | none => c :: unescape known (d :: t)
    else c :: unescape known (d :: t)

/-- The text before the first hash that follows white space. -/
def beforeComment : Text → Text
  | [] => []
  | c :: t =>
    if isBlank c && (t.dropWhile isBlank).head? = some '#' then [] else c :: beforeComment t

/-- The value behind an equals sign, and what follows it. A value that is not quoted ends before
a comment, which may follow the equals sign at once if there is white space between them. -/
def value? (t : Text) : Option (Text × Text) :=
  match skipInline t with
  | '\'' :: t => (quoted? '\'' t).map fun (v, rest) => (unescape (escapes.take 2) v, rest)
  | '"' :: t => (quoted? '"' t).map fun (v, rest) => (unescape escapes v, rest)
  | _ =>
    some (skipInline (stripEnd (beforeComment (t.takeWhile (!isLineEnd ·)))),
      t.dropWhile (!isLineEnd ·))

/-- The text after a line, of which nothing but a comment is left. -/
def afterLine? (t : Text) : Option Text :=
  let t :=
    match skipInline t with
    | '#' :: rest => rest.dropWhile (!isLineEnd ·)
    | rest => rest
  match t with
  | [] => some []
  | c :: rest => if isLineEnd c then some rest else none

/-- What a reader yields, or where it stopped. -/
def stopAt (t : Text) : Option α → Except Text α
  | some a => .ok a
  | none => .error t

/-- A name with its value or with none, or only a comment, and the text after the line; or where
reading stopped at a mistake. -/
def line (t : Text) : Except Text (Option (Text × Option Text) × Text) := do
  let t := afterExport t
  if t.head? = some '#' then .ok (none, ← stopAt t (afterLine? t))
  else
    let (n, rest) ← stopAt t (name? t)
    match skipInline rest with
    | '=' :: rest =>
      let (v, rest) ← stopAt rest (value? rest)
      .ok (some (n, some v), ← stopAt rest (afterLine? rest))
    | rest => .ok (some (n, none), ← stopAt rest (afterLine? rest))

/-- The names with their values as they are written; lines with a mistake are skipped. Each unit
of fuel admits one more line. -/
def entries : Nat → Text → List (Text × Option Text)
  | 0, _ => []
  | fuel + 1, t =>
    match t.dropWhile isBlank with
    | [] => []
    | t =>
      match line t with
      | .ok (some entry, rest) => entry :: entries fuel rest
      | .ok (none, rest) => entries fuel rest
      | .error rest => entries fuel ((rest.dropWhile (!isLineEnd ·)).drop 1)

/-- A reference to a variable with an optional default, after its opening brace. -/
def reference? (t : Text) : Option ((Text × Text) × Text) :=
  let inName (c : Char) : Bool := c ≠ '\x7d' && c ≠ ':'
  match t.dropWhile inName with
  | '\x7d' :: rest => some ((t.takeWhile inName, []), rest)
  | ':' :: '-' :: more =>
    match more.dropWhile (· ≠ '\x7d') with
    | '\x7d' :: rest => some ((t.takeWhile inName, more.takeWhile (· ≠ '\x7d')), rest)
    | _ => none
  | _ => none

/-- The value with its references replaced. -/
def resolve (known : List (Text × Option Text)) : Nat → Text → Text
  | 0, t => t
  | _ + 1, [] => []
  | fuel + 1, c :: t =>
    match c, t with
    | '$', '\x7b' :: more =>
      match reference? more with
      | some ((n, absent), rest) =>
        ((known.lookup n).getD (some absent)).getD [] ++ resolve known fuel rest
      | none => c :: resolve known fuel t
    | _, _ => c :: resolve known fuel t

/-- The mark that some editors put in front of a file. -/
def fileMark : Char := '\ufeff'

/-- The variables of a file, the later ones referring to the earlier ones and to `outer`. -/
def read (outer : List (Text × Text)) (t : Text) : List (Text × Option Text) :=
  let outer := outer.map fun (n, v) => (n, some v)
  let t := (after? [fileMark] t).getD t
  (entries (t.length + 1) t).foldl (fun seen (n, v) =>
    seen ++ [(n, v.map fun v => resolve (seen.reverse ++ outer) (v.length + 1) v)]) []

end OutlineTables.Assignments
