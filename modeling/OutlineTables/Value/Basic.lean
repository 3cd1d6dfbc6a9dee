import OutlineTables.Number.Shortest
import OutlineTables.Text.Quoted

/-!
Untyped values, as they come from settings, schema descriptions and rows handed in as data.
-/
namespace OutlineTables

/-- An untyped value; the fields of an object keep their order. -/
inductive Value where
  | null
  | bool (b : Bool)
  | int (n : Int)
  | float (x : Binary64)
  | text (t : Text)
  | list (items : List Value)
  | object (fields : List (String × Value))
deriving Inhabited

namespace Value

/-- Everything but null, false, zero and what is empty. -/
def truthy : Value → Bool
  | null => false
  | bool b => b
  | int n => n ≠ 0
  | float x => !x.isZero
  | text t => !t.isEmpty
  | list items => !items.isEmpty
  | object fields => !fields.isEmpty

mutual

/-- The value as messages show it. -/
def shown : Value → Text
  | null => "None".toList
  | bool true => "True".toList
  | bool false => "False".toList
  | int n => Text.ofInt n
  | float x => x.toText
  | text t => Text.quoted t
  | list items => '[' :: Text.join ", ".toList (shownItems items) ++ [']']
  | object fields => '\x7b' :: Text.join ", ".toList (shownFields fields) ++ ['\x7d']

def shownItems : List Value → List Text
  | [] => []
  | v :: vs => shown v :: shownItems vs

def shownFields : List (String × Value) → List Text
  | [] => []
  | (k, v) :: fs => (Text.quoted k.toList ++ ": ".toList ++ shown v) :: shownFields fs

end

/-- The name of the kind of value in messages. -/
def kindName : Value → String
  | null => "NoneType"
  | bool _ => "bool"
  | int _ => "int"
  | float _ => "float"
  | text _ => "str"
  | list _ => "list"
  | object _ => "dict"

/-- Equality of an integer and a floating point number. -/
def sameInt (n : Int) (x : Binary64) : Bool := x.toInt? = some n

mutual

/-- Equality of values: truth values count as one and zero, numbers are equal across their kinds,
and fields are compared in any order. -/
def same : Value → Value → Bool
  | null, null => true
  | bool a, bool b => a = b
  | bool a, int n => (if a then 1 else 0) = n
  | int n, bool a => (if a then 1 else 0) = n
  | int m, int n => m = n
  | bool a, float x => sameInt (if a then 1 else 0) x
  | float x, bool a => sameInt (if a then 1 else 0) x
  | int n, float x => sameInt n x
  | float x, int n => sameInt n x
  | float x, float y => x.same y
  | text s, text t => s = t
  | list vs, list ws => sameItems vs ws
  | object fs, object gs => fs.length = gs.length && sameFields fs gs
  | _, _ => false

def sameItems : List Value → List Value → Bool
  | [], [] => true
  | v :: vs, w :: ws => same v w && sameItems vs ws
  | _, _ => false

/-- Whether all fields are among others. -/
def sameFields : List (String × Value) → List (String × Value) → Bool
  | [], _ => true
  | (k, v) :: fs, gs =>
    (match gs.lookup k with
      | some w => same v w
      | none => false) && sameFields fs gs

end

/-- Several texts as messages show them, in round brackets. -/
def shownTuple : List Text → Text
  | [t] => '(' :: Text.quoted t ++ ",)".toList
  | ts => '(' :: Text.join ", ".toList (ts.map Text.quoted) ++ [')']

/-- The value of a field; an absent field is none. -/
def field? (key : String) : Value → Option Value
  | object fields => fields.lookup key
  | _ => none

/-- The fields with `key` set: in place if it is there, else at the end. -/
def setField (key : String) (v : Value) : List (String × Value) → List (String × Value)
  | [] => [(key, v)]
  | (k, w) :: fs => if k = key then (k, v) :: fs else (k, w) :: setField key v fs

mutual

/-- The first value changed by the second: objects are joined field by field. -/
def merge : Value → Value → Value
  | object old, object new => object (mergeFields old new)
  | _, new => new

def mergeFields : List (String × Value) → List (String × Value) → List (String × Value)
  | old, [] => old
  | old, (k, v) :: new =>
    mergeFields (setField k (match old.lookup k with
      | some w => merge w v
      | none => v) old) new

end

/-- A value or null. -/
def ofOption (f : α → Value) : Option α → Value
  | some a => f a
  | none => null

def ofText? : Option Text → Value := ofOption text

def ofInt? : Option Int → Value := ofOption int

def ofBool? : Option Bool → Value := ofOption bool

/-- A literal text. -/
def str (s : String) : Value := text s.toList

end Value

end OutlineTables
