/-!
Values without repetitions, in the order of their first occurrences.
-/
namespace OutlineTables

/-- The values without repetitions, by their first occurrences. -/
def firsts [DecidableEq α] : List α → List α
  | [] => []
  | a :: as => a :: (firsts as).filter (· ≠ a)

@[simp]
theorem mem_firsts [DecidableEq α] {a : α} {as : List α} : a ∈ firsts as ↔ a ∈ as := by
  induction as with
  | nil => simp [firsts]
  | cons b bs ih =>
    by_cases h : a = b <;> simp [firsts, ih, h]

theorem nodup_firsts [DecidableEq α] (as : List α) : (firsts as).Nodup := by
  induction as with
  | nil => simp [firsts]
  | cons b bs ih =>
    simp only [firsts, List.nodup_cons, List.mem_filter]
    exact ⟨by simp, ih.filter _⟩

end OutlineTables
