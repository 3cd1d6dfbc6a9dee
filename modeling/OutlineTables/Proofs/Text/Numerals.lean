import Mathlib.Algebra.Group.Nat.Defs
import Mathlib.Data.List.TakeWhile
import OutlineTables.Duration
import OutlineTables.Proofs.Success
import OutlineTables.Proofs.Text.Numbers

/-!
Numerals that can be read, and efforts that are no fault. An effort is refused if it looks like
digits and is no numeral: for a sign among its characters that only looks like a digit, or for its
length.
-/
namespace OutlineTables

namespace Numeral

/-- A text that writes a number: decimal digits, at least one and not too many. -/
structure Legible (t : Text) : Prop where
  nonempty : t ≠ []
  digits : ∀ c ∈ t, Text.isDigit c = true
  short : t.length ≤ maxDigits

theorem exists_read_iff {t : Text} : (∃ n, read t = .ok n) ↔ Legible t := by
  have hprefix : t.takeWhile Text.isDigit <+: t := List.takeWhile_prefix _
  unfold read
  dsimp only
  constructor
  · rintro ⟨n, h⟩
    split at h
    · cases h
    · rename_i hlong
      split at h
      · rename_i hwhole
        have hall : t.takeWhile Text.isDigit = t := hprefix.eq_of_length hwhole.1
        refine ⟨hwhole.2, ?_, ?_⟩
        · exact List.takeWhile_eq_self_iff.mp hall
        · rw [hall] at hlong
          omega
      · cases h
  · intro h
    have hall : t.takeWhile Text.isDigit = t := List.takeWhile_eq_self_iff.mpr h.digits
    have hlong : ¬maxDigits < t.length := Nat.not_lt.mpr h.short
    rw [hall, if_neg hlong, if_pos ⟨rfl, h.nonempty⟩]
    exact ⟨value t, rfl⟩

/-! Numbers that are written in the digits from 0 to 9. -/

theorem digitValue?_of_isDigit {c : Char} (h : c.isDigit = true) :
    Text.digitValue? c = some (c.toNat - 48) := by
  have hrange : 48 ≤ c.toNat ∧ c.toNat ≤ 57 := by
    simpa [Char.isDigit, UInt32.le_iff_toNat_le] using h
  have hfound : (Nat.ble 48 c.toNat && Nat.blt c.toNat (48 + 10)) = true := by
    simp only [Bool.and_eq_true, Nat.ble_eq, Nat.blt_eq]
    omega
  have hfirst : Text.digitZeros = 48 :: Text.digitZeros.tail := rfl
  have hzero : Text.digitZeros.find? (fun z => Nat.ble z c.toNat && Nat.blt c.toNat (z + 10)) =
      some 48 := by
    rw [hfirst]
    exact List.find?_cons_of_pos hfound
  unfold Text.digitValue?
  rw [hzero, Option.map_some]

theorem isDigit_of_isDigit {c : Char} (h : c.isDigit = true) : Text.isDigit c = true := by
  unfold Text.isDigit
  rw [digitValue?_of_isDigit h]
  rfl

theorem digits_ofNat (n : Nat) : ∀ c ∈ Text.ofNat n, Text.isDigit c = true :=
  fun _ hc => isDigit_of_isDigit (Text.isDigit_of_mem_ofNat hc)

theorem value_eq_ofDigitChars {t : Text} (h : ∀ c ∈ t, c.isDigit = true) :
    value t = Nat.ofDigitChars 10 t 0 := by
  have hfold (n : Nat) : t.foldl (fun n c => 10 * n + (Text.digitValue? c).getD 0) n =
      Nat.ofDigitChars 10 t n := by
    unfold Nat.ofDigitChars
    induction t generalizing n with
    | nil => rfl
    | cons c t ih =>
      obtain ⟨hc, ht⟩ := List.forall_mem_cons.mp h
      rw [List.foldl_cons, List.foldl_cons, digitValue?_of_isDigit hc]
      exact ih ht _
  exact hfold 0

theorem value_ofNat (n : Nat) : value (Text.ofNat n) = n := by
  rw [value_eq_ofDigitChars fun c hc => Text.isDigit_of_mem_ofNat hc]
  exact Nat.ofDigitChars_ten_toDigits

theorem read_ofNat {n : Nat} (h : (Text.ofNat n).length ≤ maxDigits) :
    read (Text.ofNat n) = .ok n := by
  have hall : (Text.ofNat n).takeWhile Text.isDigit = Text.ofNat n :=
    List.takeWhile_eq_self_iff.mpr (digits_ofNat n)
  unfold read
  dsimp only
  rw [hall, if_neg (Nat.not_lt.mpr h), if_pos ⟨rfl, Text.ofNat_ne_nil n⟩, value_ofNat]

/-- The number with zeros in front, up to `k` digits. -/
def padded (k n : Nat) : Text := (Text.ofNat n).leftpad k '0'

theorem isDigit_of_mem_padded {k n : Nat} {c : Char} (h : c ∈ padded k n) : c.isDigit = true := by
  rcases List.mem_append.mp h with h | h
  · rw [List.eq_of_mem_replicate h]
    rfl
  · exact Text.isDigit_of_mem_ofNat h

theorem digits_padded (k n : Nat) : ∀ c ∈ padded k n, Text.isDigit c = true :=
  fun _ hc => isDigit_of_isDigit (isDigit_of_mem_padded hc)

theorem length_padded {k n : Nat} (hk : 0 < k) (h : n < 10 ^ k) : (padded k n).length = k := by
  have hlength : (Text.ofNat n).length ≤ k := (Nat.length_toDigits_le_iff (by decide) hk).mpr h
  unfold padded
  rw [List.length_leftpad]
  omega

/-- Zeros in front do not count. -/
theorem value_padded (k n : Nat) : value (padded k n) = n := by
  have hzeros (i : Nat) : (List.replicate i '0').foldl
      (fun n c => 10 * n + (Text.digitValue? c).getD 0) 0 = 0 := by
    induction i with
    | zero => rfl
    | succ i ih =>
      rw [List.replicate_succ, List.foldl_cons]
      exact ih
  have hsplit : padded k n = List.replicate (k - (Text.ofNat n).length) '0' ++ Text.ofNat n := rfl
  unfold value
  rw [hsplit, List.foldl_append, hzeros]
  exact value_ofNat n

end Numeral

namespace Duration

/-- What an effort has in place of numbers. -/
def parts (t : Text) : List Text :=
  if (Text.strip t).contains ':' then
    [(Text.cutAt ':' (Text.strip t)).1, (Text.cutAt ':' (Text.strip t)).2]
  else [Text.strip t]

/-- An effort that is a number of minutes or clearly none. -/
def Legible (t : Text) : Prop :=
  (∀ p ∈ parts t, looksNumeric p = true) → ∀ p ∈ parts t, Numeral.Legible p

theorem exists_minutes_iff {t : Text} : (∃ n, minutes t = .ok n) ↔ Legible t := by
  unfold minutes Legible parts
  dsimp only
  split
  · -- Hours and minutes, which are looked at together and read one after the other.
    simp only [List.forall_mem_cons, List.not_mem_nil, false_imp_iff, implies_true, and_true]
    rw [exists_ite_iff ⟨none, rfl⟩, Bool.and_eq_true, ← Numeral.exists_read_iff,
      ← Numeral.exists_read_iff]
    refine imp_congr_right fun _ => exists_bind_and_iff fun h => ?_
    exact exists_bind_of_forall fun m => ⟨_, rfl⟩
  · simp only [List.forall_mem_cons, List.not_mem_nil, false_imp_iff, implies_true, and_true]
    rw [exists_ite_iff ⟨none, rfl⟩, ← Numeral.exists_read_iff]
    refine imp_congr_right fun _ => ?_
    constructor
    · rintro ⟨n, h⟩
      obtain ⟨m, hm, -⟩ := map_eq_ok.mp h
      exact ⟨m, hm⟩
    · rintro ⟨m, hm⟩
      exact ⟨some m, map_eq_ok.mpr ⟨m, hm, rfl⟩⟩

end Duration

end OutlineTables
