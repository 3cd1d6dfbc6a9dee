import OutlineTables.Outline.Basic

/-!
Options of the reading of outlines and of the rows made from them.
-/
namespace OutlineTables

/-- What a category leaves out: everything, or the values of a list. -/
inductive Exclusion (α : Type) where
  | all
  | only (values : List α)
deriving DecidableEq, Repr

namespace Exclusion

def covers [DecidableEq α] : Exclusion α → α → Bool
  | all, _ => true
  | only values, a => a ∈ values

/-- Nothing left out. -/
def nothing : Exclusion α := only []

theorem covers_nothing [DecidableEq α] (a : α) : (nothing : Exclusion α).covers a = false := by
  simp [nothing, covers]

end Exclusion

inductive StampKind where
  | active
  | inactive
deriving DecidableEq, Repr

namespace StampKind

def name : StampKind → String
  | active => "active"
  | inactive => "inactive"

def ofActive (b : Bool) : StampKind := if b then active else inactive

end StampKind

structure Options where
  excludedTags : Exclusion Text
  inheritTags : Bool
  /-- Leaves out the rows of inherited tags. -/
  excludeInherited : Bool
  /-- Tags that headings do not pass on. -/
  uninherited : List Text
  excludedProperties : Exclusion Text
  excludedLinks : Exclusion Text
  /-- Kinds of timestamps in body text. -/
  excludedStamps : Exclusion StampKind
  excludedPlanning : Exclusion PlanningKind
  /-- Types of logbook notes. -/
  excludedNotes : Exclusion Text
  excludeClocks : Bool
  excludeClockNotes : Bool
  /-- Note templates by the type of note. -/
  templates : List (Text × Text)
  /-- The drawer with the logbook; without one, the loose entries are the logbook. -/
  logDrawer : Option Text
  keywords : List Text
deriving DecidableEq, Repr

namespace Options

def defaultKeywords : List Text := ["TODO".toList, "DONE".toList]

def defaultDrawer : Text := "LOGBOOK".toList

def default : Options where
  excludedTags := .nothing
  inheritTags := true
  excludeInherited := false
  uninherited := []
  excludedProperties := .nothing
  excludedLinks := .nothing
  excludedStamps := .nothing
  excludedPlanning := .nothing
  excludedNotes := .nothing
  excludeClocks := false
  excludeClockNotes := false
  templates := []
  logDrawer := some defaultDrawer
  keywords := defaultKeywords

instance : Inhabited Options := ⟨default⟩

/-- The keywords of headings; an empty list stands for the default. -/
def headingKeywords (o : Options) : List Text :=
  if o.keywords.isEmpty then defaultKeywords else o.keywords

end Options

end OutlineTables
