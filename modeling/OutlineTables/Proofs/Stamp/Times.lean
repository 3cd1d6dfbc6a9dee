import Mathlib.Order.Monotone.Basic
import OutlineTables.Proofs.Stamp.Suffixes

/-!
The range of times. A date of the calendar lies in one of the years 1 to 9999, and so does every
moment that a timestamp names.
-/
namespace OutlineTables

namespace Calendar

/-- Seconds of the years 1 to 9999. -/
def InRange (s : Int) : Prop := -62135596800 ≤ s ∧ s < 253402300800

theorem isLeap_iff {y : Nat} : isLeap y = true ↔ 4 ∣ y ∧ (100 ∣ y → 400 ∣ y) := by
  simp only [isLeap, Bool.and_eq_true, Bool.or_eq_true, decide_eq_true_eq, Nat.dvd_iff_mod_eq_zero]
  tauto

/-- A year is as long as its months. -/
theorem daysInYears_succ (y : Nat) :
    daysInYears (y + 1) = daysInYears y + daysInMonths (y + 1) 12 := by
  have hmonths : daysInMonths (y + 1) 12 = 365 + if isLeap (y + 1) then 1 else 0 := by
    simp only [daysInMonths, monthLength]
    split <;> rfl
  have hcenturies : y / 100 ≤ y / 4 := Nat.div_le_div_left (by decide) (by decide)
  have hhundred (h : 100 ∣ y + 1) : 4 ∣ y + 1 := Nat.dvd_trans (by decide) h
  have hfour (h : 400 ∣ y + 1) : 100 ∣ y + 1 := Nat.dvd_trans (by decide) h
  rw [hmonths]
  simp only [isLeap_iff]
  unfold daysInYears
  rw [Nat.succ_div, Nat.succ_div, Nat.succ_div]
  generalize y / 4 = a at hcenturies ⊢
  generalize y / 100 = b at hcenturies ⊢
  generalize y / 400 = c at hcenturies ⊢
  -- The three rules of leap years, from the rarest on.
  by_cases h400 : 400 ∣ y + 1
  · have h100 := hfour h400
    have h4 := hhundred h100
    simp only [h4, h100, h400, if_true, true_imp_iff, and_true]
    omega
  · by_cases h100 : 100 ∣ y + 1
    · have h4 := hhundred h100
      simp only [h4, h100, h400, if_true, if_false, true_imp_iff, and_false]
      omega
    · by_cases h4 : 4 ∣ y + 1
      · simp only [h4, h100, h400, if_true, if_false, false_imp_iff, and_true]
        omega
      · simp only [h4, h100, h400, if_false, false_and]
        omega

theorem monotone_daysInYears : Monotone daysInYears :=
  monotone_nat_of_le_succ fun y => by
    rw [daysInYears_succ]
    exact Nat.le_add_right _ _

theorem monotone_daysInMonths (y : Nat) : Monotone (daysInMonths y) :=
  monotone_nat_of_le_succ fun m => Nat.le_add_right _ (monthLength y (m + 1))

/-- A valid date is one of the days of its year. -/
theorem dayNumber_bounds {y m d h mi : Nat} (hv : fault? y m d h mi = none) :
    -719162 ≤ dayNumber y m d ∧ dayNumber y m d ≤ 2932896 := by
  unfold fault? at hv
  split at hv
  · cases hv
  · rename_i hy
    split at hv
    · cases hv
    · rename_i hm
      split at hv
      · cases hv
      · rename_i hd
        have hmonth : daysInMonths y (m - 1) + monthLength y m = daysInMonths y m := by
          obtain ⟨k, rfl⟩ : ∃ k, m = k + 1 := ⟨m - 1, by omega⟩
          rfl
        have hmonths : daysInMonths y m ≤ daysInMonths y 12 := monotone_daysInMonths y (by omega)
        have hyear : daysInYears (y - 1) + daysInMonths y 12 = daysInYears y := by
          obtain ⟨k, rfl⟩ : ∃ k, y = k + 1 := ⟨y - 1, by omega⟩
          exact (daysInYears_succ k).symm
        have hyears : daysInYears y ≤ 3652059 := monotone_daysInYears (show y ≤ 9999 by omega)
        unfold dayNumber
        omega

theorem inRange_epoch {y m d h mi : Nat} {s : Int} (hs : epoch y m d h mi = .ok s) :
    InRange s := by
  unfold epoch at hs
  split at hs
  · cases hs
  · rename_i hv
    have hday := dayNumber_bounds hv
    split at hs
    · cases hs
    · cases hs
      have htime : h ≤ 23 ∧ mi ≤ 59 := by
        unfold fault? at hv
        split_ifs at hv
        omega
      unfold seconds InRange
      omega

end Calendar

/-- The moments of the timestamp lie in the calendar. -/
structure Stamp.InRange (s : Stamp) : Prop where
  start : Calendar.InRange s.start.seconds
  finish : ∀ m, s.finish = some m → Calendar.InRange m.seconds

namespace Stamp

theorem inRange_readMoment {date : Text} {clock : Option Text} {m : Moment}
    (h : readMoment date clock = .ok m) : Calendar.InRange m.seconds := by
  unfold readMoment at h
  dsimp only at h
  split at h
  · rename_i s hs
    cases h
    exact Calendar.inRange_epoch hs
  · cases h

theorem inRange_readFinish {a : Written} {b : Option Written} {finish : Option Moment}
    (h : readFinish a b = .ok finish) : ∀ m, finish = some m → Calendar.InRange m.seconds := by
  rintro m rfl
  have hmap {date : Text} {clock : Option Text}
      (h : (readMoment date clock).map some = .ok (some m)) : Calendar.InRange m.seconds := by
    obtain ⟨m', hm, he⟩ := map_eq_ok.mp h
    cases he
    exact inRange_readMoment hm
  unfold readFinish at h
  split at h
  · exact hmap h
  · exact hmap h
  · cases h

theorem inRange_decode {raw : Text} {s : Stamp} (h : decode raw = .ok s) : s.InRange := by
  obtain ⟨a, b, start, finish, p, -, -, hstart, hfinish, -, rfl⟩ := exists_of_decode h
  exact ⟨inRange_readMoment hstart, inRange_readFinish hfinish⟩

/-- Whatever the text says, the moments of a timestamp lie in the years 1 to 9999. -/
theorem inRange_decode? {raw : Text} {s : Stamp} (h : decode? raw = .ok (some s)) :
    s.InRange :=
  inRange_decode (decode?_eq_some_iff.mp h)

end Stamp

end OutlineTables
