/-!
Sets of code points, given by the code points at which membership changes.
-/
namespace OutlineTables.CodePoints

/-- Whether `n` is in the set whose membership changes at each of the increasing `marks`,
starting outside. -/
def within (n : Nat) : List Nat → Bool
  | [] => false
  | m :: ms => Nat.ble m n && !within n ms

end OutlineTables.CodePoints
