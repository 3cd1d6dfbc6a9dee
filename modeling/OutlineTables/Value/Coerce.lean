import OutlineTables.Text.Blank
import OutlineTables.Value.Basic

/-!
Untyped values taken as switches, numbers, texts and lists, with the usual spellings of each.
-/
namespace OutlineTables.Value

def trueWords : List String := ["1", "on", "t", "true", "y", "yes"]

def falseWords : List String := ["0", "off", "f", "false", "n", "no"]

/-- A switch: a truth value, one or zero, or a word for either in any case. -/
def asBool? : Value → Option Bool
  | bool b => some b
  | int 0 => some false
  | int 1 => some true
  | float x =>
    match x.toInt? with
    | some 0 => some false
    | some 1 => some true
    | _ => none
  | text t =>
    let w := String.ofList (t.map Char.toLower)
    if w ∈ trueWords then some true
    else if w ∈ falseWords then some false
    else none
  | _ => none

/-- Whether the character is white space that may surround a number. -/
def isNumberBlank (c : Char) : Bool := Text.isBlank c && !(28 ≤ c.toNat && c.toNat < 32)

/-- The digits without the zeros in front of them; underscores among those zeros go with them. The
last zero before a point or at the end stays. -/
def withoutZeros : Text → Text
  | '0' :: t =>
    let zeros := ('0' :: t).takeWhile fun c => c = '0' || c = '_'
    match ('0' :: t).dropWhile fun c => c = '0' || c = '_' with
    | c :: rest => if c = '.' then zeros.drop (zeros.length - 1) ++ c :: rest else c :: rest
    | [] => zeros.drop (zeros.length - 1)
  | t => t

/-- The text before a fraction of zeros; a point without zeros is no fraction. -/
def beforeFraction? (t : Text) : Option Text :=
  match t.dropWhile (· ≠ '.') with
  | [] => some t
  | _ :: zeros =>
    if !zeros.isEmpty && zeros.all (· = '0') then some (t.takeWhile (· ≠ '.')) else none

/-- Digits with single underscores between them. -/
def ungrouped? (t : Text) : Option Text :=
  let groups := Text.pieces '_' t
  if groups.all fun g => !g.isEmpty && g.all Char.isDigit then some groups.flatten else none

/-- The most characters that an integer has once it is cleaned, with its minus sign. -/
def maxIntLength : Nat := 4300

/-- An integer in ASCII digits with an optional sign and an optional fraction of zeros. -/
def intOfText? (t : Text) : Option Int := do
  let t := Text.trim isNumberBlank t
  let (negative, t) :=
    match t with
    | '-' :: r => (true, r)
    | '+' :: r => (false, r)
    | r => (false, r)
  if (t.head?.map Char.isDigit).getD false then
    let digits ← ungrouped? (← beforeFraction? (withoutZeros t))
    let n : Int := digits.foldl (fun n c => 10 * n + (c.toNat - 48)) 0
    if maxIntLength < digits.length + (if negative then 1 else 0) then none
    else some (if negative then -n else n)
  else none

/-- The integer that a floating point number is; it must be smaller than the words of 64 bits. -/
def intOfFloat? (x : Binary64) : Option Int :=
  x.toInt?.bind fun n => if n.natAbs < 9223372036854775808 then some n else none

def asInt? : Value → Option Int
  | int n => some n
  | bool b => some (if b then 1 else 0)
  | float x => intOfFloat? x
  | text t => intOfText? t
  | _ => none

def asText? : Value → Option Text
  | text t => some t
  | _ => none

def asName? (v : Value) : Option String := v.asText?.map String.ofList

def asList? : Value → Option (List Value)
  | list vs => some vs
  | _ => none

def asTexts? (v : Value) : Option (List Text) := v.asList?.bind fun vs => vs.mapM asText?

def asNames? (v : Value) : Option (List String) := v.asList?.bind fun vs => vs.mapM asName?

def isObject : Value → Bool
  | object _ => true
  | _ => false

/-- A field read by `read?`; `absent` stands for a missing one. -/
def fieldD (v : Value) (key : String) (absent : α) (read? : Value → Option α) : Option α :=
  match v.field? key with
  | some w => read? w
  | none => some absent

/-- A required field read by `read?`. -/
def fieldOf? (v : Value) (key : String) (read? : Value → Option α) : Option α :=
  (v.field? key).bind read?

/-- A field that may be missing or null. -/
def fieldOrNull? (v : Value) (key : String) (read? : Value → Option α) : Option (Option α) :=
  match v.field? key with
  | some null => some none
  | some w => (read? w).map some
  | none => some none

end OutlineTables.Value
