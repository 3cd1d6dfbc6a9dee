import Mathlib.Data.List.Nodup
import OutlineTables.Proofs.Text.Numbers
import OutlineTables.Sync.Plan

/-!
Paths between two paths. The paths that files have between the two rounds of renames are all
different, and no outline file has one of them.
-/
namespace OutlineTables

namespace Mapping

/-- Outline files have paths with their ending. -/
def IsOutlinePath (p : Text) : Prop := Disk.outlineEnding <:+ p

theorem not_isOutlinePath_between (p : Text) (n : Nat) :
    ¬IsOutlinePath (p ++ Report.moveMark ++ Text.ofNat n) := by
  rintro ⟨lead, h⟩
  have hlast := congrArg List.getLast? h
  rw [List.getLast?_append, List.getLast?_append] at hlast
  cases hl : (Text.ofNat n).getLast? with
  | none => exact Text.ofNat_ne_nil n (List.getLast?_eq_none_iff.mp hl)
  | some c =>
    rw [hl] at hlast
    -- The ending ends in a letter, and the path in a digit.
    have hg : 'g' = c := Option.some.inj hlast
    have hdigit := Text.isDigit_of_mem_ofNat (List.mem_of_getLast? hl)
    rw [← hg] at hdigit
    revert hdigit
    decide

end Mapping

/-- Whatever the old paths are, the numbers behind them make the difference. -/
theorem Report.nodup_between {α : Type} (old : α → Text) (as : List α) :
    (as.zipIdx.map fun a => old a.1 ++ moveMark ++ Text.ofNat a.2).Nodup := by
  have hindex : (as.zipIdx.map Prod.snd).Nodup := by
    rw [List.zipIdx_map_snd]
    exact List.nodup_range'
  refine List.Nodup.map_on ?_ (List.Nodup.of_map _ hindex)
  rintro ⟨a, k⟩ ha ⟨b, n⟩ hb hab
  have hmark : moveMark = ".org-sql-move".toList ++ ['-'] := rfl
  dsimp only at hab
  rw [hmark, List.append_assoc, List.append_assoc, List.append_assoc, List.append_assoc,
    ← List.append_assoc, ← List.append_assoc (old b)] at hab
  have hkn := Text.append_ofNat_inj (by decide) (by decide) hab
  exact List.inj_on_of_nodup_map hindex ha hb hkn

end OutlineTables
