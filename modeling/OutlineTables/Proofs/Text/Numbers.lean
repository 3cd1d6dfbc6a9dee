import OutlineTables.Text.Basic

/-!
Numbers written in decimal digits.
-/
namespace OutlineTables.Text

theorem isDigit_of_mem_ofNat {n : Nat} {c : Char} (h : c ∈ ofNat n) : c.isDigit = true :=
  Nat.isDigit_of_mem_toDigits (by decide) (by decide) h

theorem ofNat_ne_nil (n : Nat) : ofNat n ≠ [] := Nat.toDigits_ne_nil

theorem ofNat_injective {m n : Nat} (h : ofNat m = ofNat n) : m = n := by
  have hm := Nat.ofDigitChars_ten_toDigits (n := m)
  have hn := Nat.ofDigitChars_ten_toDigits (n := n)
  unfold ofNat at h
  rw [h] at hm
  exact hm.symm.trans hn

/-- A number at the end of a text can be told from what is before it. -/
theorem append_ofNat_inj {s t : Text} {c d : Char} (hc : c.isDigit = false) (hd : d.isDigit = false)
    {m n : Nat} (h : s ++ c :: ofNat m = t ++ d :: ofNat n) : m = n := by
  have htail (s : Text) {c : Char} (hc : c.isDigit = false) (n : Nat) :
      (s ++ c :: ofNat n).reverse.takeWhile Char.isDigit = (ofNat n).reverse := by
    have hall : ∀ a ∈ (ofNat n).reverse, a.isDigit = true :=
      fun a ha => isDigit_of_mem_ofNat (List.mem_reverse.mp ha)
    rw [List.reverse_append, List.reverse_cons, List.append_assoc,
      List.takeWhile_append_of_pos hall, List.singleton_append,
      List.takeWhile_cons_of_neg (ne_true_of_eq_false hc), List.append_nil]
  have hm := htail s hc m
  rw [h, htail t hd n] at hm
  exact (ofNat_injective (List.reverse_inj.mp hm)).symm

end OutlineTables.Text
