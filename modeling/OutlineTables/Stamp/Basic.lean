import OutlineTables.Calendar
import OutlineTables.Numeral

/-!
Timestamps: one moment or a pair of moments with a repeater and a warning period.
-/
namespace OutlineTables

inductive TimeUnit where
  | hour
  | day
  | week
  | month
  | year
deriving DecidableEq, Repr

namespace TimeUnit

def name : TimeUnit → String
  | hour => "hour"
  | day => "day"
  | week => "week"
  | month => "month"
  | year => "year"

def letter : TimeUnit → Char
  | hour => 'h'
  | day => 'd'
  | week => 'w'
  | month => 'm'
  | year => 'y'

def ofLetter? : Char → Option TimeUnit
  | 'h' => some hour
  | 'd' => some day
  | 'w' => some week
  | 'm' => some month
  | 'y' => some year
  | _ => none

theorem ofLetter?_letter (u : TimeUnit) : ofLetter? u.letter = some u := by cases u <;> rfl

end TimeUnit

/-- How a repeating date moves on: by one step, to the next future step, or from today. -/
inductive RepeatKind where
  | cumulate
  | catchUp
  | restart
deriving DecidableEq, Repr

namespace RepeatKind

def name : RepeatKind → String
  | cumulate => "cumulate"
  | catchUp => "catch-up"
  | restart => "restart"

def mark : RepeatKind → Text
  | cumulate => ['+']
  | catchUp => ['+', '+']
  | restart => ['.', '+']

end RepeatKind

/-- Whether a warning holds for all occurrences or for the first one only. -/
inductive WarningKind where
  | all
  | first
deriving DecidableEq, Repr

namespace WarningKind

def name : WarningKind → String
  | all => "all"
  | first => "first"

def mark : WarningKind → Text
  | all => ['-']
  | first => ['-', '-']

end WarningKind

structure Repeater where
  kind : RepeatKind
  count : Nat
  unit : TimeUnit
deriving DecidableEq, Repr

structure Warning where
  kind : WarningKind
  count : Nat
  unit : TimeUnit
deriving DecidableEq, Repr

/-- A moment in seconds since 1970-01-01, and whether a time of day was written. -/
structure Moment where
  seconds : Int
  isLong : Bool
deriving DecidableEq, Repr

/-- A decoded timestamp. -/
structure Stamp where
  raw : Text
  active : Bool
  start : Moment
  finish : Option Moment
  repeater : Option Repeater
  warning : Option Warning
deriving DecidableEq, Repr

/-- Why a text is no timestamp. -/
inductive StampFault where
  | shape (raw : Text)
  | brackets (raw : Text)
  | date (date : Text) (clock : Option Text) (fault : DateFault)
  | numeral (fault : NumeralFault)
deriving DecidableEq, Repr

def StampFault.message : StampFault → Text
  | shape raw => "Not a timestamp: ".toList ++ Text.quoted raw
  | brackets raw => "Mismatched brackets in timestamp: ".toList ++ Text.quoted raw
  | date d clock f =>
    "Invalid date ".toList ++ d ++ ' ' :: clock.getD [] ++ ": ".toList ++ f.message
  | numeral f => f.message

end OutlineTables
