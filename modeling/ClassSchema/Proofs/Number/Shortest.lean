import ClassSchema.Number.Shortest
import Mathlib.Algebra.Order.Field.Power
import Mathlib.Data.Nat.Cast.Order.Field
import Mathlib.Tactic.FieldSimp
import Mathlib.Tactic.GCongr
import Mathlib.Tactic.Linarith
import Mathlib.Tactic.Ring

/-!
# The shortest decimal rounds to its double

`RoundsTo` is the set of numbers that round to a double, as an interval of rationals. The search for
the shortest decimal compares natural numbers, on a scale where the decimal grid and a quarter of
the last bit are both integers; `inside_iff` leads back to the interval. The search succeeds at
seventeen digits at the latest, since the step of that grid is smaller than the interval. Different
doubles have intervals without a common number, so the shortest decimal determines the double.
-/

namespace ClassSchema

/-! ## Powers -/

theorem pow_toNat_div (b : ℚ) (k : Int) : b ^ k.toNat / b ^ (-k).toNat = b ^ k := by
  rcases Int.le_total 0 k with h | h
  · rw [Int.toNat_of_nonpos (by omega : -k ≤ 0), pow_zero, div_one, ← zpow_natCast,
      Int.toNat_of_nonneg h]
  · rw [Int.toNat_of_nonpos h, pow_zero, one_div, ← zpow_natCast, Int.toNat_of_nonneg (by omega),
      zpow_neg, inv_inv]

theorem powerOfTen_div (k : Int) : (powerOfTen k : ℚ) / powerOfTen (-k) = 10 ^ k := by
  have h := pow_toNat_div 10 k
  simpa [powerOfTen] using h

theorem powerOfTwo_div (k : Int) : (powerOfTwo k : ℚ) / powerOfTwo (-k) = 2 ^ k := by
  have h := pow_toNat_div 2 k
  simpa [powerOfTwo] using h

/-! ## What rounds to a double -/

namespace Double

/-- The distance in quarters of the last bit from a mantissa down to the end of what rounds to it:
half a bit, but a quarter if the double below has a smaller exponent. -/
def below (m : Nat) (e : Int) : Nat :=
  if m = powerOfTwo (precision - 1) ∧ e > minExponent then 1 else 2

/-- A number that rounds to the positive double `m · 2 ^ e`. -/
def RoundsTo (m : Nat) (e : Int) (x : ℚ) : Prop :=
  let low := (4 * m - below m e : ℚ) * 2 ^ (e - 2)
  let high := (4 * m + 2 : ℚ) * 2 ^ (e - 2)
  if m % 2 = 0 then low ≤ x ∧ x ≤ high else low < x ∧ x < high

variable {m m' : Nat} {e e' : Int} {x : ℚ}

theorem RoundsTo.low_le (h : RoundsTo m e x) : (4 * m - below m e : ℚ) * 2 ^ (e - 2) ≤ x := by
  unfold RoundsTo at h
  split at h
  · exact h.1
  · exact h.1.le

theorem RoundsTo.le_high (h : RoundsTo m e x) : x ≤ (4 * m + 2 : ℚ) * 2 ^ (e - 2) := by
  unfold RoundsTo at h
  split at h
  · exact h.2
  · exact h.2.le

private theorem RoundsTo.low_lt (h : RoundsTo m e x) (hodd : m % 2 = 1) :
    (4 * m - below m e : ℚ) * 2 ^ (e - 2) < x := by
  rw [RoundsTo, if_neg (by omega)] at h
  exact h.1

theorem RoundsTo.lt_high (h : RoundsTo m e x) (hodd : m % 2 = 1) :
    x < (4 * m + 2 : ℚ) * 2 ^ (e - 2) := by
  rw [RoundsTo, if_neg (by omega)] at h
  exact h.2

private theorem RoundsTo.of_lt (hlow : (4 * m - below m e : ℚ) * 2 ^ (e - 2) < x)
    (hhigh : x < (4 * m + 2 : ℚ) * 2 ^ (e - 2)) : RoundsTo m e x := by
  unfold RoundsTo
  split
  · exact ⟨hlow.le, hhigh.le⟩
  · exact ⟨hlow, hhigh⟩

theorem below_le (m : Nat) (e : Int) : below m e ≤ 2 := by
  unfold below
  split <;> decide

theorem RoundsTo.pos (h : RoundsTo m e x) (hm : 0 < m) : 0 < x := by
  have hbelow : (below m e : ℚ) ≤ 2 := by exact_mod_cast below_le m e
  have hone : (1 : ℚ) ≤ m := by exact_mod_cast hm
  have hlow : 0 < (4 * m - below m e : ℚ) * 2 ^ (e - 2) := by
    apply mul_pos _ (by positivity)
    linarith
  exact hlow.trans_le h.low_le

/-- Of two mantissas with one exponent, the numbers that round to the smaller one are smaller. -/
theorem RoundsTo.not_of_lt (h : RoundsTo m e x) (hlt : m < m') : ¬RoundsTo m' e x := by
  intro h'
  have hbelow : (below m' e : ℚ) ≤ 2 := by exact_mod_cast below_le m' e
  have hle : (4 * m + 2 : ℚ) * 2 ^ (e - 2) ≤ (4 * m' - below m' e : ℚ) * 2 ^ (e - 2) := by
    have hsucc : (m : ℚ) + 1 ≤ m' := by exact_mod_cast hlt
    gcongr
    linarith
  -- an end that two neighbours share belongs to the even one
  rcases Nat.mod_two_eq_zero_or_one m with heven | hodd
  · rcases Nat.mod_two_eq_zero_or_one m' with heven' | hodd'
    · have hlt2 : (4 * m + 2 : ℚ) * 2 ^ (e - 2) < (4 * m' - below m' e : ℚ) * 2 ^ (e - 2) := by
        have hsucc : (m : ℚ) + 2 ≤ m' := by exact_mod_cast (by omega : m + 2 ≤ m')
        gcongr
        linarith
      linarith [h.le_high, h'.low_le]
    · linarith [h.le_high, h'.low_lt hodd']
  · linarith [h.lt_high hodd, h'.low_le]

/-- Of two exponents, the numbers that round to a double with the smaller one are smaller. -/
theorem RoundsTo.not_of_exponent_lt (h : RoundsTo m e x) (hlt : e < e') (hm : m < 2 ^ 53)
    (hm' : 2 ^ 52 ≤ m') (he : minExponent ≤ e) : ¬RoundsTo m' e' x := by
  intro h'
  have hstep : (2 : ℚ) * 2 ^ (e - 2) ≤ 2 ^ (e' - 2) := by
    rw [← zpow_one_add₀ (by norm_num)]
    exact zpow_le_zpow_right₀ (by norm_num) (by omega)
  -- a mantissa that stands under a greater exponent is at least half of the range
  have hlow : (2 ^ 54 - 1 : ℚ) ≤ 4 * m' - below m' e' := by
    rcases Nat.eq_or_lt_of_le hm' with heq | hgt
    · have hbelow : below m' e' = 1 := if_pos ⟨heq.symm, by omega⟩
      rw [hbelow, ← heq]
      norm_num
    · have hbelow : (below m' e' : ℚ) ≤ 2 := by exact_mod_cast below_le m' e'
      have hsucc : (2 ^ 52 + 1 : ℚ) ≤ m' := by exact_mod_cast hgt
      linarith
  have hnext : (2 ^ 55 - 2 : ℚ) * 2 ^ (e - 2) ≤ (4 * m' - below m' e' : ℚ) * 2 ^ (e' - 2) := by
    calc (2 ^ 55 - 2 : ℚ) * 2 ^ (e - 2) = (2 ^ 54 - 1) * (2 * 2 ^ (e - 2)) := by ring
      _ ≤ (4 * m' - below m' e') * 2 ^ (e' - 2) := by gcongr
  rcases Nat.eq_or_lt_of_le (Nat.le_sub_one_of_lt hm) with heq | hgt
  · -- the greatest mantissa is odd
    have hhigh := h.lt_high (by omega)
    have hm : (m : ℚ) = 2 ^ 53 - 1 := by rw [heq]; norm_num
    rw [hm] at hhigh
    have hsame : (4 * (2 ^ 53 - 1) + 2 : ℚ) = 2 ^ 55 - 2 := by norm_num
    rw [hsame] at hhigh
    linarith [h'.low_le]
  · -- the intervals of the two exponents are apart
    have hhigh : (4 * m + 2 : ℚ) * 2 ^ (e - 2) < (2 ^ 55 - 2) * 2 ^ (e - 2) := by
      have hle : (m : ℚ) ≤ 2 ^ 53 - 2 := by
        have hsucc : m + 2 ≤ 2 ^ 53 := by omega
        have : (m : ℚ) + 2 ≤ 2 ^ 53 := by exact_mod_cast hsucc
        linarith
      gcongr
      linarith
    linarith [h.le_high, h'.low_le]

/-- The one form of a double: 53 bits, or fewer with the least exponent. -/
def IsCanonical : Double → Prop
  | finite _ m e => m < 2 ^ 53 ∧ minExponent ≤ e ∧ e ≤ maxExponent ∧ (2 ^ 52 ≤ m ∨ e = minExponent)
  | _ => True

instance : DecidablePred IsCanonical
  | finite _ m e => inferInstanceAs (Decidable (m < 2 ^ 53 ∧ minExponent ≤ e ∧ e ≤ maxExponent ∧
      (2 ^ 52 ≤ m ∨ e = minExponent)))
  | infinite _ => inferInstanceAs (Decidable True)
  | notANumber => inferInstanceAs (Decidable True)

/-- **A number rounds to one double at most.** -/
theorem RoundsTo.unique {negative negative' : Bool} (hd : (finite negative m e).IsCanonical)
    (hd' : (finite negative' m' e').IsCanonical) (h : RoundsTo m e x) (h' : RoundsTo m' e' x) :
    m = m' ∧ e = e' := by
  obtain ⟨hlt, hmin, -, hform⟩ := hd
  obtain ⟨hlt', hmin', -, hform'⟩ := hd'
  rcases Int.lt_trichotomy e e' with he | rfl | he
  · exact absurd h' (h.not_of_exponent_lt he hlt (hform'.resolve_right (by omega)) hmin)
  · rcases Nat.lt_trichotomy m m' with hm | rfl | hm
    · exact absurd h' (h.not_of_lt hm)
    · exact ⟨rfl, rfl⟩
    · exact absurd h (h'.not_of_lt hm)
  · exact absurd h (h'.not_of_exponent_lt he hlt' (hform.resolve_right (by omega)) hmin')

end Double

/-! ## Candidates -/

namespace Decimal

open Double

variable {m : Nat} {e k : Int}

/-- The number that a decimal stands for. -/
def value (d : Decimal) : ℚ := d.digits * 10 ^ d.exponent

/-- The step of the decimal grid `k`, next to which a quarter of the last bit is `quarter e k`. -/
def unit (e k : Int) : Nat := powerOfTen k * powerOfTwo (2 - e)

/-- A quarter of the last bit of a mantissa next to a step of the decimal grid `k`. -/
def quarter (e k : Int) : Nat := powerOfTwo (e - 2) * powerOfTen (-k)

private theorem unit_pos (e k : Int) :
    0 < unit e k := Nat.mul_pos (powerOfTen_pos k) (powerOfTwo_pos _)

theorem quarter_pos (e k : Int) : 0 < quarter e k :=
  Nat.mul_pos (powerOfTwo_pos _) (powerOfTen_pos _)

theorem unit_mul (e k : Int) : (unit e k : ℚ) * 2 ^ (e - 2) = quarter e k * 10 ^ k := by
  have hten : (0 : ℚ) < powerOfTen (-k) := by exact_mod_cast powerOfTen_pos _
  have htwo : (0 : ℚ) < powerOfTwo (2 - e) := by exact_mod_cast powerOfTwo_pos _
  rw [← powerOfTen_div, ← powerOfTwo_div, unit, quarter, neg_sub]
  push_cast
  field_simp

/-- Whether a multiple of the step is among the numbers that round to the double. -/
def inside (m : Nat) (e k : Int) (x : Nat) : Bool :=
  let low := (4 * m - Double.below m e) * quarter e k
  let high := (4 * m + 2) * quarter e k
  if m % 2 = 0 then low ≤ x && x ≤ high else low < x && x < high

theorem onGrid?_eq (m : Nat) (e k : Int) : onGrid? m e k =
    let value := 4 * m * quarter e k
    let below := value / unit e k
    let above := below + 1
    match inside m e k (below * unit e k), inside m e k (above * unit e k) with
    | true, true =>
      let down := value - below * unit e k
      let up := above * unit e k - value
      some (if down < up ∨ down = up ∧ below % 2 = 0 then below else above)
    | true, false => some below
    | false, true => some above
    | false, false => none := rfl

private theorem quarter_le_unit_iff (c D : Nat) : c * quarter e k ≤ D * unit e k ↔
    (c * 2 ^ (e - 2) : ℚ) ≤ D * 10 ^ k := by
  have hquarter : (0 : ℚ) < quarter e k := by exact_mod_cast quarter_pos e k
  have htwo : (0 : ℚ) < 2 ^ (e - 2) := by positivity
  calc c * quarter e k ≤ D * unit e k
      ↔ (c * quarter e k : ℚ) ≤ D * unit e k := by exact_mod_cast Iff.rfl
    _ ↔ (c * quarter e k : ℚ) * 2 ^ (e - 2) ≤ D * unit e k * 2 ^ (e - 2) :=
        (mul_le_mul_iff_of_pos_right htwo).symm
    _ ↔ quarter e k * (c * 2 ^ (e - 2) : ℚ) ≤ quarter e k * (D * 10 ^ k) := by
        rw [mul_assoc (D : ℚ), unit_mul]
        ring_nf
    _ ↔ (c * 2 ^ (e - 2) : ℚ) ≤ D * 10 ^ k := mul_le_mul_iff_of_pos_left hquarter

theorem unit_le_quarter_iff (c D : Nat) : D * unit e k ≤ c * quarter e k ↔
    (D * 10 ^ k : ℚ) ≤ c * 2 ^ (e - 2) := by
  have hquarter : (0 : ℚ) < quarter e k := by exact_mod_cast quarter_pos e k
  have htwo : (0 : ℚ) < 2 ^ (e - 2) := by positivity
  calc D * unit e k ≤ c * quarter e k
      ↔ (D * unit e k : ℚ) ≤ c * quarter e k := by exact_mod_cast Iff.rfl
    _ ↔ (D * unit e k : ℚ) * 2 ^ (e - 2) ≤ c * quarter e k * 2 ^ (e - 2) :=
        (mul_le_mul_iff_of_pos_right htwo).symm
    _ ↔ quarter e k * (D * 10 ^ k : ℚ) ≤ quarter e k * (c * 2 ^ (e - 2)) := by
        rw [mul_assoc (D : ℚ), unit_mul]
        ring_nf
    _ ↔ (D * 10 ^ k : ℚ) ≤ c * 2 ^ (e - 2) := mul_le_mul_iff_of_pos_left hquarter

theorem inside_iff (hm : 0 < m) (D : Nat) :
    inside m e k (D * unit e k) = true ↔ RoundsTo m e (D * 10 ^ k) := by
  have hlow : ((4 * m - Double.below m e : Nat) : ℚ) = 4 * m - Double.below m e := by
    rw [Nat.cast_sub (by have := below_le m e; omega)]
    push_cast
    rfl
  have hhigh : ((4 * m + 2 : Nat) : ℚ) = 4 * m + 2 := by push_cast; rfl
  rw [inside, RoundsTo]
  split
  · simp only [Bool.and_eq_true, decide_eq_true_eq, quarter_le_unit_iff, unit_le_quarter_iff, hlow,
      hhigh]
  · simp only [Bool.and_eq_true, decide_eq_true_eq, ← not_le, quarter_le_unit_iff,
      unit_le_quarter_iff, hlow, hhigh]

/-- A candidate rounds to the double. -/
theorem roundsTo_of_onGrid? (hm : 0 < m) {D : Nat} (h : onGrid? m e k = some D) :
    RoundsTo m e (D * 10 ^ k) := by
  rw [← inside_iff hm]
  rw [onGrid?_eq] at h
  dsimp only at h
  split at h
  · rename_i hbelow habove
    rw [← Option.some.inj h]
    split
    · exact hbelow
    · exact habove
  · rename_i hbelow habove
    rw [← Option.some.inj h]
    exact hbelow
  · rename_i hbelow habove
    rw [← Option.some.inj h]
    exact habove
  · cases h

/-- On a grid whose step is smaller than what rounds to the double, there is a candidate. -/
theorem exists_onGrid? (hm : 0 < m)
    (hstep : (10 : ℚ) ^ k < (Double.below m e + 2) * 2 ^ (e - 2)) :
    ∃ D, onGrid? m e k = some D := by
  let D := 4 * m * quarter e k / unit e k
  have hfloor : D * unit e k ≤ (4 * m : Nat) * quarter e k := Nat.div_mul_le_self _ _
  have hceil : ¬(D + 1) * unit e k ≤ (4 * m : Nat) * quarter e k := by
    rw [not_le, Nat.mul_comm (D + 1)]
    exact Nat.lt_mul_div_succ _ (unit_pos e k)
  rw [unit_le_quarter_iff] at hfloor hceil
  rw [not_le] at hceil
  push_cast at hfloor hceil
  have hpos : (0 : ℚ) < 2 ^ (e - 2) := by positivity
  have hnonneg : (0 : ℚ) ≤ Double.below m e * 2 ^ (e - 2) := by positivity
  -- the two neighbours on the grid are not both outside
  have hone : RoundsTo m e (D * 10 ^ k) ∨ RoundsTo m e ((D + 1 : Nat) * 10 ^ k) := by
    push_cast
    rcases lt_or_ge ((4 * m - Double.below m e : ℚ) * 2 ^ (e - 2)) (D * 10 ^ k) with hlow | hlow
    · exact .inl (.of_lt hlow (by linarith))
    · exact .inr (.of_lt (by linarith) (by linarith))
  rw [← inside_iff hm, ← inside_iff hm] at hone
  rw [onGrid?_eq]
  dsimp only
  split
  · exact ⟨_, rfl⟩
  · exact ⟨_, rfl⟩
  · exact ⟨_, rfl⟩
  · rename_i hbelow habove
    exact absurd hone (by simp [D, hbelow, habove])

/-! ## The shortest candidate -/

private theorem value_stripZeros (fuel : Nat) (d : Decimal) :
    (d.stripZeros fuel).value = d.value := by
  induction fuel generalizing d with
  | zero => rfl
  | succ fuel ih =>
    rw [stripZeros]
    split
    · rename_i h
      have hdigits : d.digits = d.digits / 10 * 10 := by omega
      rw [ih, value, value, zpow_add₀ (by norm_num), zpow_one]
      conv_rhs => rw [hdigits]
      push_cast
      ring
    · rfl

private theorem powerOfTwo_le_powerOfTen {j k : Int} (h : j.toNat ≤ 3 * k.toNat) :
    powerOfTwo j ≤ powerOfTen k := by
  calc powerOfTwo j ≤ 2 ^ (3 * k.toNat) := Nat.pow_le_pow_right (by decide) h
    _ = (2 ^ 3) ^ k.toNat := Nat.pow_mul 2 3 k.toNat
    _ ≤ powerOfTen k := Nat.pow_le_pow_left (by decide) k.toNat

/-- A number is at least the power of ten of its first digit. -/
theorem pow_leadingExponent_le (hm : 0 < m) (he : Double.minExponent ≤ e) :
    (10 : ℚ) ^ leadingExponent m e ≤ m * 2 ^ e := by
  rw [leadingExponent]
  set scaled := m * powerOfTen 400 * powerOfTwo e / powerOfTwo (-e) with hscaled
  have hpos : 0 < scaled := by
    apply Nat.div_pos _ (powerOfTwo_pos _)
    have hfactor : 0 < m * powerOfTwo e := Nat.mul_pos hm (powerOfTwo_pos e)
    -- four hundred decimal places are enough to see the first digit of any double
    have hplaces : (-e).toNat ≤ 3 * (400 : Int).toNat := by
      rw [Double.minExponent] at he
      omega
    calc powerOfTwo (-e) ≤ powerOfTen 400 := powerOfTwo_le_powerOfTen hplaces
      _ ≤ m * powerOfTwo e * powerOfTen 400 := Nat.le_mul_of_pos_left _ hfactor
      _ = m * powerOfTen 400 * powerOfTwo e := by ring
  have hle : (scaled : ℚ) ≤ m * 2 ^ e * 10 ^ (400 : Int) := by
    have hten : (powerOfTen 400 : ℚ) / (1 : Nat) = 10 ^ (400 : Int) := powerOfTen_div 400
    calc (scaled : ℚ) ≤ (m * powerOfTen 400 * powerOfTwo e : Nat) / (powerOfTwo (-e) : Nat) :=
          Nat.cast_div_le
      _ = m * 2 ^ e * 10 ^ (400 : Int) := by
          rw [← powerOfTwo_div, ← hten]
          push_cast
          ring
  have hdigits : 10 ^ ((Nat.toDigits 10 scaled).length - 1) ≤ scaled := by
    rcases Nat.eq_zero_or_pos ((Nat.toDigits 10 scaled).length - 1) with hone | hmore
    · rw [hone]
      exact hpos
    · by_contra hlt
      have := (Nat.length_toDigits_le_iff (by decide) hmore).mpr (not_le.mp hlt)
      omega
  have hlength : (Nat.toDigits 10 scaled).length ≠ 0 := by simp [Nat.toDigits_ne_nil]
  have hsplit : ((Nat.toDigits 10 scaled).length - 401 : Int) =
      ((Nat.toDigits 10 scaled).length - 1 : Nat) - 400 := by omega
  rw [hsplit, zpow_sub₀ (by norm_num), zpow_natCast]
  apply div_le_of_le_mul₀ (by positivity) (by positivity)
  calc (10 : ℚ) ^ ((Nat.toDigits 10 scaled).length - 1) ≤ scaled := by exact_mod_cast hdigits
    _ ≤ m * 2 ^ e * 10 ^ (400 : Int) := hle

/-- **The shortest decimal of a double rounds to it.** -/
theorem roundsTo_shortest {negative : Bool} (hd : (finite negative m e).IsCanonical) (hm : 0 < m) :
    RoundsTo m e (shortest m e).value := by
  obtain ⟨hlt, he, -, -⟩ := hd
  set top := leadingExponent m e
  -- a grid of seventeen digits is finer than what rounds to the double is wide
  have hstep : (10 : ℚ) ^ (top - 16) < (Double.below m e + 2) * 2 ^ (e - 2) := by
    have hpos : (0 : ℚ) < 2 ^ (e - 2) := by positivity
    have htop := pow_leadingExponent_le hm he
    have hvalue : (m * 2 ^ e : ℚ) = m * 4 * 2 ^ (e - 2) := by
      rw [zpow_sub₀ (by norm_num)]
      ring
    have hwidth : (m * 4 / 10 ^ 16 : ℚ) < Double.below m e + 2 := by
      have hm53 : (m : ℚ) < 2 ^ 53 := by exact_mod_cast hlt
      rw [div_lt_iff₀ (by norm_num), Double.below]
      split
      · rename_i h
        have hm52 : (m : ℚ) = 2 ^ 52 := by exact_mod_cast h.1
        rw [hm52]
        norm_num
      · push_cast
        linarith
    calc (10 : ℚ) ^ (top - 16) = 10 ^ top / 10 ^ 16 := by
          rw [zpow_sub₀ (by norm_num)]
          norm_num
      _ ≤ m * 4 / 10 ^ 16 * 2 ^ (e - 2) := by
          rw [div_mul_eq_mul_div, ← hvalue]
          gcongr
      _ < (Double.below m e + 2) * 2 ^ (e - 2) := by gcongr
  rw [shortest, value_stripZeros]
  -- so one of the grids that are tried has a point there
  cases hhit : (List.range 17).findSome? fun (n : Nat) ↦
      (onGrid? m e (top - n)).map (Decimal.mk · (top - n)) with
  | none =>
    obtain ⟨D, hD⟩ := exists_onGrid? hm hstep
    have hnone := List.findSome?_eq_none_iff.mp hhit 16 (by simp)
    simp [hD] at hnone
  | some d =>
    obtain ⟨n, -, hn⟩ := List.exists_of_findSome?_eq_some hhit
    obtain ⟨D, hD, rfl⟩ := Option.map_eq_some_iff.mp hn
    exact roundsTo_of_onGrid? hm hD

theorem shortest_inj {negative negative' : Bool} {m' : Nat} {e' : Int}
    (hd : (finite negative m e).IsCanonical) (hd' : (finite negative' m' e').IsCanonical)
    (hm : 0 < m) (hm' : 0 < m') (h : (shortest m e).value = (shortest m' e').value) :
    m = m' ∧ e = e' := by
  have hrounds := roundsTo_shortest hd' hm'
  rw [← h] at hrounds
  exact (roundsTo_shortest hd hm).unique hd hd' hrounds

end Decimal

end ClassSchema
