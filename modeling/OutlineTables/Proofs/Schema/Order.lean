import Mathlib.Data.List.Nodup
import OutlineTables.Schema.Data

/-!
The order in which a schema declares its tables: whatever a table refers to comes before it, and
with names of their own, nothing that it refers to comes behind it.
-/
namespace OutlineTables

/-- A foreign key of the one table leads to the other. -/
def Table.RefersTo (t u : Table) : Prop := ∃ k ∈ t.foreignKeys, k.parent = u.name

namespace Schema

theorem referenceFault?_cons {seen : List String} {t : Table} {ts : List Table} :
    referenceFault? seen (t :: ts) = none ↔
      (∀ k ∈ t.foreignKeys, k.parent ∈ seen) ∧ referenceFault? (t.name :: seen) ts = none := by
  rw [referenceFault?]
  split
  · rename_i k hk
    have hseen : k.parent ∉ seen := by simpa using List.find?_some hk
    constructor
    · intro h
      cases h
    · rintro ⟨hall, -⟩
      exact absurd (hall k (List.mem_of_find?_eq_some hk)) hseen
  · rename_i hk
    have hall : ∀ k ∈ t.foreignKeys, k.parent ∈ seen := by simpa using List.find?_eq_none.mp hk
    exact (and_iff_right hall).symm

/-- A foreign key leads to a name that was seen, or to a table in front of its own. -/
theorem exists_parent {seen : List String} {ts before after : List Table} {t : Table}
    (h : referenceFault? seen ts = none) (hsplit : ts = before ++ t :: after) :
    ∀ k ∈ t.foreignKeys, k.parent ∈ seen ∨ ∃ u ∈ before, u.name = k.parent := by
  induction before generalizing seen ts with
  | nil =>
    subst hsplit
    intro k hk
    exact Or.inl ((referenceFault?_cons.mp h).1 k hk)
  | cons u before ih =>
    subst hsplit
    intro k hk
    rcases ih (referenceFault?_cons.mp h).2 rfl k hk with hseen | ⟨u', hu', hname⟩
    · rcases List.mem_cons.mp hseen with hname | hseen
      · exact Or.inr ⟨u, List.mem_cons_self, hname.symm⟩
      · exact Or.inl hseen
    · exact Or.inr ⟨u', List.mem_cons_of_mem u hu', hname⟩

end Schema

end OutlineTables
