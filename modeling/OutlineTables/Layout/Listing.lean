import OutlineTables.Layout.Wrap

/-!
Lists of two levels, drawn as trees.
-/
namespace OutlineTables.Layout

/-- A title with branches, each with a label and leaves. -/
structure Listing where
  title : Text
  branches : List (Text × List Text)

namespace Listing

/-- Lines behind marks, one for the first line and one for the others. -/
def behind (first others : String) : List Text → List Text
  | [] => []
  | l :: ls => (first.toList ++ l) :: ls.map (others.toList ++ ·)

/-- Items with the marks of a tree; each item is a list of lines. -/
def hang : List (List Text) → List Text
  | [] => []
  | [item] => behind "└── " "    " item
  | item :: rest => behind "├── " "│   " item ++ hang rest

/-- The columns that the marks take. -/
def indent : Nat := 4

/-- The lines of a list on a screen of some width. -/
def lines (screen : Nat) (x : Listing) : List Text :=
  let branch (label : Text) (leaves : List Text) : List Text :=
    wrap (screen - indent) .fold label ++ hang (leaves.map (wrap (screen - 2 * indent) .fold))
  wrap screen .fold x.title ++ hang (x.branches.map fun (label, leaves) => branch label leaves)

end Listing

end OutlineTables.Layout
