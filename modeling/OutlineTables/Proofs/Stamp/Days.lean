import OutlineTables.Proofs.Stamp.Times

/-!
Counting days. The number of a date is what counting the days from 1970-01-01 on gives, forwards
and backwards, one calendar day at a time.
-/
namespace OutlineTables

namespace Calendar

/-- A date of the proleptic Gregorian calendar, from the year 1 on. -/
structure Date where
  year : Nat
  month : Nat
  day : Nat
  year_pos : 1 ≤ year
  month_pos : 1 ≤ month
  month_le : month ≤ 12
  day_pos : 1 ≤ day
  day_le : day ≤ monthLength year month
deriving DecidableEq

namespace Date

def number (a : Date) : Int := dayNumber a.year a.month a.day

/-- The first day of Unix time. -/
def epoch : Date := ⟨1970, 1, 1, by decide, by decide, by decide, by decide, by decide⟩

/-- The day after `a` is `b`: the next day of the month, or the first one of the next month or of
the next year. -/
inductive Next (a b : Date) : Prop
  | day (hy : b.year = a.year) (hm : b.month = a.month) (hd : b.day = a.day + 1)
  | month (hy : b.year = a.year) (hm : b.month = a.month + 1)
      (hlast : a.day = monthLength a.year a.month) (hd : b.day = 1)
  | year (hy : b.year = a.year + 1) (hdec : a.month = 12) (hlast : a.day = 31) (hm : b.month = 1)
      (hd : b.day = 1)

/-- Days from 1970-01-01 to a date, below zero for the dates before. -/
inductive Counted : Date → Int → Prop
  | epoch : Counted epoch 0
  | after {a b : Date} {n : Int} (h : Next a b) (ha : Counted a n) : Counted b (n + 1)
  | before {a b : Date} {n : Int} (h : Next a b) (hb : Counted b n) : Counted a (n - 1)

/-- The order of dates by year, month and day. -/
def Before (a b : Date) : Prop :=
  a.year < b.year ∨ a.year = b.year ∧ (a.month < b.month ∨ a.month = b.month ∧ a.day < b.day)

variable {a b : Date}

theorem ext_parts (hy : a.year = b.year) (hm : a.month = b.month) (hd : a.day = b.day) : a = b := by
  cases a
  cases b
  cases hy
  cases hm
  cases hd
  rfl

theorem before_trichotomy (a b : Date) : Before a b ∨ a = b ∨ Before b a := by
  unfold Before
  by_cases hsame : a.year = b.year ∧ a.month = b.month ∧ a.day = b.day
  · exact Or.inr (Or.inl (ext_parts hsame.1 hsame.2.1 hsame.2.2))
  · omega

/-- The days of a month up to one of its days, behind those of the months before it. -/
theorem daysInMonths_add_day_le (a : Date) :
    daysInMonths a.year (a.month - 1) + a.day ≤ daysInMonths a.year a.month := by
  obtain ⟨m, hm⟩ : ∃ m, a.month = m + 1 := ⟨a.month - 1, by have := a.month_pos; omega⟩
  have hday := a.day_le
  rw [hm] at hday ⊢
  rw [Nat.add_sub_cancel, daysInMonths]
  omega

/-- A date is one of the days of its year. -/
theorem days_le_year (a : Date) :
    daysInYears (a.year - 1) + daysInMonths a.year (a.month - 1) + a.day ≤ daysInYears a.year := by
  obtain ⟨y, hy⟩ : ∃ y, a.year = y + 1 := ⟨a.year - 1, by have := a.year_pos; omega⟩
  have hmonth := daysInMonths_add_day_le a
  have hyear : daysInMonths a.year a.month ≤ daysInMonths a.year 12 :=
    monotone_daysInMonths a.year a.month_le
  rw [hy] at hmonth hyear ⊢
  rw [Nat.add_sub_cancel, daysInYears_succ]
  omega

theorem number_lt_of_before (h : Before a b) : a.number < b.number := by
  unfold number dayNumber
  rcases h with hy | ⟨hy, hm | ⟨hm, hd⟩⟩
  · have hpast := days_le_year a
    have hyears : daysInYears a.year ≤ daysInYears (b.year - 1) :=
      monotone_daysInYears (by omega)
    have hday := b.day_pos
    omega
  · have hpast := daysInMonths_add_day_le a
    have hmonths : daysInMonths a.year a.month ≤ daysInMonths a.year (b.month - 1) :=
      monotone_daysInMonths a.year (by omega)
    have hday := b.day_pos
    rw [← hy]
    omega
  · rw [← hy, ← hm]
    omega

theorem eq_of_number_eq (h : a.number = b.number) : a = b := by
  rcases before_trichotomy a b with hlt | he | hgt
  · have := number_lt_of_before hlt
    omega
  · exact he
  · have := number_lt_of_before hgt
    omega

theorem number_epoch : epoch.number = 0 := by decide

/-- Each day is one more. -/
theorem number_next (h : Next a b) : b.number = a.number + 1 := by
  have hyear := a.year_pos
  have hmonth := a.month_pos
  unfold number dayNumber
  cases h with
  | day hy hm hd =>
    rw [hy, hm, hd]
    omega
  | month hy hm hlast hd =>
    obtain ⟨m, hm'⟩ : ∃ m, a.month = m + 1 := ⟨a.month - 1, by omega⟩
    have hmonths : daysInMonths a.year (m + 1) =
        daysInMonths a.year m + monthLength a.year (m + 1) := rfl
    rw [hy, hm, hd, hlast, hm', Nat.add_sub_cancel, Nat.add_sub_cancel, hmonths]
    omega
  | year hy hdec hlast hm hd =>
    obtain ⟨y, hy'⟩ : ∃ y, a.year = y + 1 := ⟨a.year - 1, by omega⟩
    have hmonths : daysInMonths (y + 1) 12 = daysInMonths (y + 1) (12 - 1) + 31 := rfl
    have hnone : daysInMonths (y + 2) 0 = 0 := rfl
    rw [hy, hm, hd, hdec, hlast, hy', Nat.add_sub_cancel, Nat.add_sub_cancel, Nat.sub_self, hnone,
      daysInYears_succ, hmonths]
    omega

theorem monthLength_bounds (y m : Nat) : 1 ≤ monthLength y m ∧ monthLength y m ≤ 31 := by
  unfold monthLength
  split
  · split <;> omega
  · omega
  · omega
  · omega
  · omega
  · omega

theorem exists_next (a : Date) : ∃ b, Next a b := by
  have hmonth := a.month_le
  by_cases hday : a.day < monthLength a.year a.month
  · exact ⟨{ a with day := a.day + 1, day_pos := by omega, day_le := hday }, Next.day rfl rfl rfl⟩
  · have hlast : a.day = monthLength a.year a.month := by
      have := a.day_le
      omega
    by_cases hdec : a.month = 12
    · have hfirst : 1 ≤ monthLength (a.year + 1) 1 := (monthLength_bounds _ 1).1
      refine ⟨⟨a.year + 1, 1, 1, by omega, by omega, by omega, by omega, hfirst⟩, ?_⟩
      exact Next.year rfl hdec (by rw [hlast, hdec]; rfl) rfl rfl
    · have hfirst : 1 ≤ monthLength a.year (a.month + 1) := (monthLength_bounds _ _).1
      refine ⟨⟨a.year, a.month + 1, 1, a.year_pos, by omega, by omega, by omega, hfirst⟩, ?_⟩
      exact Next.month rfl rfl hlast rfl

/-- Every date but the first one of the calendar has a day before it. -/
theorem exists_previous (b : Date) (hb : ¬(b.year = 1 ∧ b.month = 1 ∧ b.day = 1)) :
    ∃ a, Next a b := by
  have hyear := b.year_pos
  have hmonth := b.month_pos
  have hmonth' := b.month_le
  have hday := b.day_pos
  have hday' := b.day_le
  by_cases hd : b.day = 1
  · by_cases hm : b.month = 1
    · refine ⟨⟨b.year - 1, 12, 31, by omega, by omega, by omega, by omega, Nat.le_refl 31⟩, ?_⟩
      exact Next.year (by simp only; omega) rfl rfl hm hd
    · refine ⟨⟨b.year, b.month - 1, monthLength b.year (b.month - 1), hyear, by omega, by omega,
        (monthLength_bounds _ _).1, Nat.le_refl _⟩, ?_⟩
      exact Next.month rfl (by simp only; omega) rfl hd
  · refine ⟨{ b with day := b.day - 1, day_pos := by omega, day_le := by omega }, ?_⟩
    exact Next.day rfl rfl (by simp only; omega)

theorem number_of_counted {n : Int} (h : Counted a n) : n = a.number := by
  induction h with
  | epoch => exact number_epoch.symm
  | after h _ ih => rw [number_next h, ih]
  | before h _ ih =>
    rw [ih, number_next h]
    omega

/-- Every date is reached from 1970-01-01. -/
theorem counted_number (a : Date) : Counted a a.number := by
  -- Induction on the distance, towards the date that is one day nearer.
  induction hn : a.number.natAbs generalizing a with
  | zero =>
    have hzero : a.number = 0 := by omega
    have hepoch : a = epoch := eq_of_number_eq (hzero.trans number_epoch.symm)
    rw [hzero, hepoch]
    exact Counted.epoch
  | succ n ih =>
    by_cases hpos : 0 < a.number
    · have hlate : ¬(a.year = 1 ∧ a.month = 1 ∧ a.day = 1) := by
        rintro ⟨hy, hm, hd⟩
        unfold number at hpos
        rw [hy, hm, hd] at hpos
        exact absurd hpos (by decide)
      obtain ⟨p, hp⟩ := exists_previous a hlate
      have hnumber := number_next hp
      rw [hnumber]
      exact Counted.after hp (ih p (by omega))
    · obtain ⟨q, hq⟩ := exists_next a
      have hnumber := number_next hq
      have hsame : a.number = q.number - 1 := by omega
      rw [hsame]
      exact Counted.before hq (ih q (by omega))

theorem counted_iff {n : Int} : Counted a n ↔ n = a.number :=
  ⟨number_of_counted, fun h => h ▸ counted_number a⟩

end Date

end Calendar

end OutlineTables
