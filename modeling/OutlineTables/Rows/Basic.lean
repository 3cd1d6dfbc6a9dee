import OutlineTables.Link
import OutlineTables.Outline.Basic
import OutlineTables.Stamp.Basic

/-!
Rows of the fifteen tables. All rows but those of files belong to a file, and most of them to the
heading at a position of it.
-/
namespace OutlineTables

structure FileRow where
  path : Text
  md5 : Text
  size : Option Int
deriving DecidableEq, Repr

structure HeadingRow where
  file : Text
  offset : Int
  title : Text
  keyword : Option Text
  effort : Option Nat
  priority : Option Text
  archived : Bool
  commented : Bool
  content : Option Text
deriving DecidableEq, Repr

/-- A heading with one of its ancestors; at depth 0 it is its own. -/
structure ClosureRow where
  file : Text
  heading : Int
  ancestor : Int
  depth : Nat
deriving DecidableEq, Repr

structure StampRow where
  file : Text
  offset : Int
  heading : Int
  stamp : Stamp
deriving DecidableEq, Repr

structure PlanningRow where
  file : Text
  heading : Int
  kind : PlanningKind
  stamp : Int
deriving DecidableEq, Repr

structure FileTagRow where
  file : Text
  tag : Text
deriving DecidableEq, Repr

structure HeadingTagRow where
  file : Text
  heading : Int
  tag : Text
  inherited : Bool
deriving DecidableEq, Repr

structure PropertyRow where
  file : Text
  offset : Int
  key : Text
  value : Text
deriving DecidableEq, Repr

structure FilePropertyRow where
  file : Text
  property : Int
deriving DecidableEq, Repr

structure HeadingPropertyRow where
  file : Text
  property : Int
  heading : Int
deriving DecidableEq, Repr

structure LinkRow where
  file : Text
  offset : Int
  heading : Int
  link : Link
deriving DecidableEq, Repr

structure ClockRow where
  file : Text
  offset : Int
  heading : Int
  start : Int
  finish : Option Int
  note : Option Text
deriving DecidableEq, Repr

structure NoteRow where
  file : Text
  offset : Int
  heading : Int
  type : Text
  time : Option Int
  header : Text
  body : Option Text
deriving DecidableEq, Repr

structure StateRow where
  file : Text
  note : Int
  old : Option Text
  new : Option Text
deriving DecidableEq, Repr

structure PlanningChangeRow where
  file : Text
  note : Int
  stamp : Int
deriving DecidableEq, Repr

/-- Rows of all tables. -/
structure Rows where
  files : List FileRow := []
  headings : List HeadingRow := []
  closures : List ClosureRow := []
  stamps : List StampRow := []
  planning : List PlanningRow := []
  fileTags : List FileTagRow := []
  headingTags : List HeadingTagRow := []
  properties : List PropertyRow := []
  fileProperties : List FilePropertyRow := []
  headingProperties : List HeadingPropertyRow := []
  links : List LinkRow := []
  clocks : List ClockRow := []
  notes : List NoteRow := []
  states : List StateRow := []
  planningChanges : List PlanningChangeRow := []
deriving DecidableEq, Repr

namespace Rows

def append (a b : Rows) : Rows where
  files := a.files ++ b.files
  headings := a.headings ++ b.headings
  closures := a.closures ++ b.closures
  stamps := a.stamps ++ b.stamps
  planning := a.planning ++ b.planning
  fileTags := a.fileTags ++ b.fileTags
  headingTags := a.headingTags ++ b.headingTags
  properties := a.properties ++ b.properties
  fileProperties := a.fileProperties ++ b.fileProperties
  headingProperties := a.headingProperties ++ b.headingProperties
  links := a.links ++ b.links
  clocks := a.clocks ++ b.clocks
  notes := a.notes ++ b.notes
  states := a.states ++ b.states
  planningChanges := a.planningChanges ++ b.planningChanges

instance : Append Rows := ⟨append⟩

/-- The rows of several groups, table by table in order. -/
def concat (rs : List Rows) : Rows := rs.foldr append {}

end Rows

end OutlineTables
