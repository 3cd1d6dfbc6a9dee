import OutlineTables.Text.UpperCase

/-!
Outlines: a forest of headings, each with the structures of its section. Positions count
characters from 1 and are kept with every part.
-/
namespace OutlineTables

/-- Verbatim text and the position of its first character. -/
structure Excerpt where
  offset : Int
  text : Text
deriving DecidableEq, Repr

structure Property where
  offset : Int
  key : Text
  value : Text
deriving DecidableEq, Repr

inductive PlanningKind where
  | scheduled
  | deadline
  | closed
deriving DecidableEq, Repr

namespace PlanningKind

def name : PlanningKind → String
  | scheduled => "scheduled"
  | deadline => "deadline"
  | closed => "closed"

/-- The word in front of the timestamp. -/
def word : PlanningKind → Text
  | scheduled => "SCHEDULED".toList
  | deadline => "DEADLINE".toList
  | closed => "CLOSED".toList

def all : List PlanningKind := [scheduled, deadline, closed]

end PlanningKind

/-- A planning word with its timestamp. -/
structure Planning where
  kind : PlanningKind
  stamp : Excerpt
deriving DecidableEq, Repr

inductive EntryKind where
  | clock
  | item
deriving DecidableEq, Repr

namespace EntryKind

def name : EntryKind → String
  | clock => "clock"
  | item => "item"

end EntryKind

/-- A clock line or a list item. The text of an item starts behind its bullet, at `textOffset`,
and holds its further lines behind line feeds. -/
structure Entry where
  kind : EntryKind
  offset : Int
  textOffset : Int
  text : Text
deriving DecidableEq, Repr

structure Drawer where
  name : Text
  offset : Int
  entries : List Entry
deriving DecidableEq, Repr

/-- A heading and its section. -/
structure Heading where
  offset : Int
  level : Int
  title : Text
  keyword : Option Text
  priority : Option Text
  commented : Bool
  tags : List Text
  properties : List Property
  planning : List Planning
  drawers : List Drawer
  /-- Entries at the top of the section that stand in no drawer. -/
  looseEntries : List Entry
  content : Option Text
  timestamps : List Excerpt
  links : List Excerpt
deriving DecidableEq, Repr

namespace Heading

/-- The first drawer of a name, up to case. -/
def drawer? (h : Heading) (name : Text) : Option Drawer :=
  h.drawers.find? fun d => Text.sameName d.name name

/-- The value of the first property of a name, up to case. -/
def property? (h : Heading) (key : Text) : Option Text :=
  (h.properties.find? fun p => Text.sameName p.key key).map (·.value)

end Heading

/-- A heading with the headings below it. -/
inductive Tree where
  | node (heading : Heading) (children : List Tree)
deriving Repr

namespace Tree

def heading : Tree → Heading
  | node h _ => h

def children : Tree → List Tree
  | node _ ts => ts

mutual

/-- The headings of a tree, each before those below it. -/
def headings : Tree → List Heading
  | node h ts => h :: headingsOf ts

def headingsOf : List Tree → List Heading
  | [] => []
  | t :: ts => headings t ++ headingsOf ts

end

mutual

/-- The number of headings in a tree. -/
def size : Tree → Nat
  | node _ ts => totalSize ts + 1

def totalSize : List Tree → Nat
  | [] => 0
  | t :: ts => size t + totalSize ts

end

mutual

/-- The headings of a tree, each with the place of its parent; the tree itself is at place `n`. -/
def placed (parent : Option Nat) (n : Nat) : Tree → List (Option Nat × Heading)
  | node h ts => (parent, h) :: placedOf (some n) (n + 1) ts

def placedOf (parent : Option Nat) (n : Nat) : List Tree → List (Option Nat × Heading)
  | [] => []
  | t :: ts => placed parent n t ++ placedOf parent (n + t.size) ts

end

/-- A heading in front of a forest takes the deeper trees that directly follow it. -/
def nest (h : Heading) (ts : List Tree) : List Tree :=
  node h (ts.takeWhile (h.level < ·.heading.level)) ::
    ts.dropWhile (h.level < ·.heading.level)

/-- The forest of a sequence of headings: each is below the nearest one before it of a smaller
level. -/
def forest (hs : List Heading) : List Tree := hs.foldr nest []

end Tree

/-- A whole file. -/
structure Outline where
  tags : List Text
  properties : List Property
  trees : List Tree
deriving Repr

namespace Outline

/-- All headings, each before those below it. -/
def headings (o : Outline) : List Heading := Tree.headingsOf o.trees

/-- All headings with the places of their parents in the list. -/
def placed (o : Outline) : List (Option Nat × Heading) := Tree.placedOf none 0 o.trees

end Outline

end OutlineTables
