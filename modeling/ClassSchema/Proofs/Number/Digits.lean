import ClassSchema.Number.Basic

/-!
# Decimal digits

The digits of a number, and the texts of integers, which are a minus if there is one and the digits
of the size.
-/

namespace ClassSchema

namespace Digits

variable {c d : Char} {n : Nat}

theorem ne_of_isDigit (hc : c.isDigit = true) (hd : d.isDigit = false) : c ≠ d := by
  rintro rfl
  rw [hc] at hd
  cases hd

theorem isDigit_of_mem (h : c ∈ Nat.toDigits 10 n) : c.isDigit = true :=
  Nat.isDigit_of_mem_toDigits (by decide) (by decide) h

theorem isDigit_of_mem_zeros (h : c ∈ List.replicate n '0') : c.isDigit = true := by
  rw [List.eq_of_mem_replicate h]
  rfl

theorem length_pos (n : Nat) : 0 < (Nat.toDigits 10 n).length :=
  List.length_pos_iff.mpr Nat.toDigits_ne_nil

theorem toDigits_injective : Function.Injective (Nat.toDigits 10) := by
  intro n n' h
  rw [← Nat.ofDigitChars_ten_toDigits (n := n), h, Nat.ofDigitChars_ten_toDigits]

theorem exists_eq_cons (n : Nat) : ∃ d ds, Nat.toDigits 10 n = d :: ds ∧ d.isDigit = true := by
  cases h : Nat.toDigits 10 n with
  | nil => exact absurd h Nat.toDigits_ne_nil
  | cons d ds =>
    have hmem : d ∈ Nat.toDigits 10 n := h ▸ List.mem_cons_self
    exact ⟨d, ds, rfl, isDigit_of_mem hmem⟩

/-- Only the digits of zero start with a zero. -/
theorem eq_zero_of_head? (h : (Nat.toDigits 10 n).head? = some '0') : n = 0 := by
  induction n using Nat.strongRecOn with
  | ind n ih =>
    by_cases hn : n < 10
    · have hdigit : ∀ d < 10, Nat.digitChar d = '0' → d = 0 := by decide
      rw [Nat.toDigits_of_lt_base hn] at h
      exact hdigit n hn (Option.some.inj h)
    · rw [Nat.toDigits_of_base_le (by decide) (by omega)] at h
      have hfront : (Nat.toDigits 10 (n / 10)).head? = some '0' := by
        obtain ⟨d, ds, hdigits, -⟩ := exists_eq_cons (n / 10)
        simpa [hdigits] using h
      have hzero := ih (n / 10) (by omega) hfront
      omega

end Digits

theorem Number.toList_text_int (style : DecimalStyle) (n : Int) : ((int n).text style).toList =
    (if n < 0 then ['-'] else []) ++ Nat.toDigits 10 n.natAbs := by
  cases n with
  | ofNat n => simp [text, toString, Int.repr, Nat.repr]
  | negSucc n => simp [text, toString, Int.repr, Nat.repr, Int.negSucc_lt_zero]

end ClassSchema
