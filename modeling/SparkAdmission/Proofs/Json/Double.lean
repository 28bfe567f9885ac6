import Mathlib.Algebra.Order.Field.Power
import Mathlib.Algebra.Order.Ring.Rat
import Mathlib.Tactic.FieldSimp
import Mathlib.Tactic.Linarith
import Mathlib.Tactic.NormNum
import Mathlib.Tactic.Positivity
import Mathlib.Tactic.Ring
import SparkAdmission.Json.Double

/-!
# Decimals that stand for a double

A quotient that is a double is rounded to that double (`nearest_eq`), and so is a decimal of the
same value, although its powers of ten are not computed beyond certain bounds (`ofDecimal_eq`). The
decimal that is written for a double is therefore one to which the double is nearest, whether it was
found on one of the grids or is the exact expansion (`ofDecimal_shortest`).
-/

namespace SparkAdmission.Double

/-- The magnitude as a rational number. -/
def magnitude (x : Double) : ℚ := x.mantissa * (2 : ℚ) ^ x.exponent

/-! ### Quotients -/

theorem scale_spec (num : Nat) {den : Nat} (hden : 0 < den) (e : Int) :
    0 < (scale num den e).2 ∧
      ((scale num den e).1 : ℚ) / (scale num den e).2 = num / den * (2 : ℚ) ^ e := by
  rw [scale]
  split
  · rename_i he
    obtain ⟨k, rfl⟩ := Int.eq_ofNat_of_zero_le he
    refine ⟨hden, ?_⟩
    simp only [Int.toNat_natCast, Nat.pow_eq, Nat.cast_mul, Nat.cast_pow, Nat.cast_ofNat,
      zpow_natCast]
    ring
  · rename_i he
    obtain ⟨k, hk⟩ : ∃ k : Nat, e = -k := ⟨(-e).toNat, by omega⟩
    subst hk
    refine ⟨Nat.mul_pos hden (Nat.pow_pos (by decide)), ?_⟩
    simp only [neg_neg, Int.toNat_natCast, Nat.pow_eq, Nat.cast_mul, Nat.cast_pow,
      Nat.cast_ofNat, zpow_neg, zpow_natCast]
    field_simp

theorem log2_bounds {n : Nat} (h : 0 < n) :
    (2 : ℚ) ^ (n.log2 : Int) ≤ n ∧ (n : ℚ) < 2 ^ ((n.log2 : Int) + 1) := by
  have hlow : 2 ^ n.log2 ≤ n := Nat.log2_self_le h.ne'
  have hhigh : n < 2 ^ (n.log2 + 1) := Nat.lt_log2_self
  constructor
  · exact_mod_cast hlow
  · exact_mod_cast hhigh

theorem two_zpow_add (a b : Int) : (2 : ℚ) ^ a * 2 ^ b = 2 ^ (a + b) :=
  (zpow_add₀ two_ne_zero a b).symm

theorem cast_leastMantissa : ((leastMantissa : Nat) : ℚ) = 2 ^ (52 : Int) := by
  norm_num [leastMantissa]

/-- The exponent at which a quotient is rounded is that of its highest bit, or the least one. -/
theorem exists_unitExponent {num den : Nat} (hnum : 0 < num) (hden : 0 < den) :
    ∃ top : Int, unitExponent num den = max (top - 52) (-1074) ∧
      (2 : ℚ) ^ top ≤ num / den ∧ (num / den : ℚ) < 2 ^ (top + 1) := by
  obtain ⟨hnumLow, hnumHigh⟩ := log2_bounds hnum
  obtain ⟨hdenLow, hdenHigh⟩ := log2_bounds hden
  have hdenPos : (0 : ℚ) < den := by exact_mod_cast hden
  generalize hdiff : (num.log2 : Int) - den.log2 = diff
  -- the quotient lies between the powers on both sides of the difference of the logarithms
  have hlow : (2 : ℚ) ^ (diff - 1) ≤ num / den := by
    rw [le_div_iff₀ hdenPos]
    calc (2 : ℚ) ^ (diff - 1) * den ≤ 2 ^ (diff - 1) * 2 ^ ((den.log2 : Int) + 1) := by gcongr
      _ = 2 ^ (num.log2 : Int) := by rw [two_zpow_add]; congr 1; omega
      _ ≤ num := hnumLow
  have hhigh : (num / den : ℚ) < 2 ^ (diff + 1) := by
    rw [div_lt_iff₀ hdenPos]
    calc (num : ℚ) < 2 ^ ((num.log2 : Int) + 1) := hnumHigh
      _ = 2 ^ (diff + 1) * 2 ^ (den.log2 : Int) := by rw [two_zpow_add]; congr 1; omega
      _ ≤ 2 ^ (diff + 1) * den := by gcongr
  obtain ⟨hscaledPos, hscaled⟩ := scale_spec num hden (-(diff - 52))
  have hbelow : (scale num den (-(diff - 52))).1 <
      (scale num den (-(diff - 52))).2 * leastMantissa ↔ (num / den : ℚ) < 2 ^ diff := by
    have hcast : (0 : ℚ) < (scale num den (-(diff - 52))).2 := by exact_mod_cast hscaledPos
    have hpow : (0 : ℚ) < 2 ^ (-(diff - 52)) := by positivity
    have hleast : (leastMantissa : ℚ) / 2 ^ (-(diff - 52)) = 2 ^ diff := by
      rw [cast_leastMantissa, div_eq_mul_inv, ← zpow_neg, neg_neg, two_zpow_add]
      congr 1
      omega
    rw [← Nat.cast_lt (α := ℚ), Nat.cast_mul, ← div_lt_iff₀' hcast, hscaled, ← lt_div_iff₀ hpow,
      hleast]
  rw [unitExponent, hdiff]
  dsimp only
  split
  · rename_i h
    exact ⟨diff - 1, by congr 1; omega, hlow, by simpa using hbelow.1 h⟩
  · rename_i h
    exact ⟨diff, rfl, not_lt.1 (mt hbelow.2 h), hhigh⟩

theorem mantissa_lt (x : Double) : (x.mantissa : ℚ) < 2 ^ (53 : Int) := by
  calc (x.mantissa : ℚ) < 2 * leastMantissa := by exact_mod_cast x.valid.1
    _ = 2 ^ (53 : Int) := by rw [cast_leastMantissa]; norm_num

variable {x : Double}

/-- The exponent at which the magnitude of a double is rounded is its own. -/
theorem unitExponent_eq {num den : Nat} (hnum : 0 < num) (hden : 0 < den)
    (h : (num / den : ℚ) = x.magnitude) : unitExponent num den = x.exponent := by
  obtain ⟨top, hunit, hlow, hhigh⟩ := exists_unitExponent hnum hden
  obtain ⟨-, hnormal, hleast, -⟩ := x.valid
  rw [h, magnitude] at hlow hhigh
  -- the mantissa has 53 bits at most, so the highest bit is not beyond them
  have htop : top < 53 + x.exponent := by
    have hmantissa := x.mantissa_lt
    have hpow : (2 : ℚ) ^ top < 2 ^ (53 + x.exponent) := by
      rw [← two_zpow_add]
      refine lt_of_le_of_lt hlow ?_
      gcongr
    exact (zpow_lt_zpow_iff_right₀ one_lt_two).1 hpow
  rw [hunit]
  rcases hnormal with hnormal | hnormal
  · have hmantissa : (2 : ℚ) ^ (52 : Int) ≤ x.mantissa := by
      rw [← cast_leastMantissa]
      exact_mod_cast hnormal
    have hpow : (2 : ℚ) ^ (52 + x.exponent) < 2 ^ (top + 1) := by
      rw [← two_zpow_add]
      refine lt_of_le_of_lt ?_ hhigh
      gcongr
    have htop' := (zpow_lt_zpow_iff_right₀ (one_lt_two (α := ℚ))).1 hpow
    omega
  · omega

theorem roundHalfEven_mul (m : Nat) {den : Nat} (h : 0 < den) :
    roundHalfEven (m * den) den = m := by
  simp [roundHalfEven, Nat.mul_div_cancel m h, h]

theorem magnitude_pos (hx : x.mantissa ≠ 0) : 0 < x.magnitude := by
  have hmantissa : (0 : ℚ) < x.mantissa := by exact_mod_cast Nat.pos_of_ne_zero hx
  rw [magnitude]
  positivity

/-- A quotient that is a double is rounded to that double. -/
theorem nearest_eq (hx : x.mantissa ≠ 0) {num den : Nat} (hden : 0 < den)
    (h : (num / den : ℚ) = x.magnitude) : nearest x.negative num den = some x := by
  have hnum : num ≠ 0 := by
    rintro rfl
    have hpos := magnitude_pos hx
    rw [← h] at hpos
    simp at hpos
  have hunit := unitExponent_eq (Nat.pos_of_ne_zero hnum) hden h
  obtain ⟨hscaledPos, hscaled⟩ := scale_spec num hden (-x.exponent)
  have hexact : (scale num den (-x.exponent)).1 =
      x.mantissa * (scale num den (-x.exponent)).2 := by
    have hcast : ((scale num den (-x.exponent)).2 : ℚ) ≠ 0 := by exact_mod_cast hscaledPos.ne'
    rw [h, magnitude, mul_assoc, two_zpow_add, add_neg_cancel, zpow_zero, mul_one,
      div_eq_iff hcast] at hscaled
    exact_mod_cast hscaled
  have hbits : x.mantissa ≠ 2 * leastMantissa := x.valid.1.ne
  rw [nearest, if_neg hnum, hunit]
  dsimp only
  rw [hexact, roundHalfEven_mul _ hscaledPos, if_neg hbits]
  exact dif_pos x.valid

/-! ### Decimals -/

theorem decimalLength_pos (n : Nat) : 0 < decimalLength n :=
  List.length_pos_of_ne_nil Nat.toDigits_ne_nil

theorem lt_ten_pow_decimalLength (n : Nat) : n < 10 ^ decimalLength n :=
  (Nat.length_toDigits_le_iff (by decide) (decimalLength_pos n)).1 le_rfl

theorem ten_pow_le {n : Nat} (h : n ≠ 0) : 10 ^ (decimalLength n - 1) ≤ n := by
  rcases Nat.eq_zero_or_pos (decimalLength n - 1) with hone | hpos
  · rw [hone]
    exact Nat.pos_of_ne_zero h
  · refine not_lt.1 fun hlt => ?_
    have hlength := (Nat.length_toDigits_le_iff (by decide) hpos).2 hlt
    change decimalLength n ≤ _ at hlength
    omega

/-- The magnitude of a double that is not zero lies within powers of ten. -/
theorem magnitude_bounds (hx : x.mantissa ≠ 0) :
    (10 : ℚ) ^ (-330 : Int) ≤ x.magnitude ∧ x.magnitude < 10 ^ (310 : Int) := by
  obtain ⟨-, -, hleast, hgreatest⟩ := x.valid
  have hmantissa : (1 : ℚ) ≤ x.mantissa := by exact_mod_cast Nat.pos_of_ne_zero hx
  have hmantissa' := x.mantissa_lt
  have hsmall : 2 ^ 1074 ≤ 10 ^ 330 := by decide +kernel
  have hlarge : 2 ^ 1024 < 10 ^ 310 := by decide +kernel
  constructor
  · calc (10 : ℚ) ^ (-330 : Int) ≤ 2 ^ (-1074 : Int) := by
          rw [zpow_neg, zpow_neg]
          exact inv_anti₀ (by positivity) (by exact_mod_cast hsmall)
      _ ≤ 2 ^ x.exponent := zpow_le_zpow_right₀ one_le_two hleast
      _ ≤ x.mantissa * 2 ^ x.exponent := le_mul_of_one_le_left (by positivity) hmantissa
  · calc (x.mantissa : ℚ) * 2 ^ x.exponent < 2 ^ (53 : Int) * 2 ^ x.exponent := by gcongr
      _ ≤ 2 ^ (53 : Int) * 2 ^ (971 : Int) := by gcongr; exact one_le_two
      _ = 2 ^ (1024 : Int) := by rw [two_zpow_add]; norm_num
      _ < 10 ^ (310 : Int) := by exact_mod_cast hlarge

theorem ten_zpow_add (a b : Int) : (10 : ℚ) ^ a * 10 ^ b = 10 ^ (a + b) :=
  (zpow_add₀ (by norm_num) a b).symm

/-- The place of the first digit of a decimal is within the bounds when its value is a double. -/
theorem place_bounds (hx : x.mantissa ≠ 0) {digits : Nat} {exponent : Int} (hdigits : digits ≠ 0)
    (h : (digits * 10 ^ exponent : ℚ) = x.magnitude) :
    -330 < (decimalLength digits : Int) + exponent ∧
      (decimalLength digits : Int) + exponent ≤ 310 := by
  obtain ⟨hlow, hhigh⟩ := magnitude_bounds hx
  rw [← h] at hlow hhigh
  have hone : (1 : ℚ) < 10 := by norm_num
  have hlength := decimalLength_pos digits
  constructor
  · have hdigits' : (digits : ℚ) < 10 ^ (decimalLength digits : Int) := by
      exact_mod_cast lt_ten_pow_decimalLength digits
    have hpow : (10 : ℚ) ^ (-330 : Int) < 10 ^ ((decimalLength digits : Int) + exponent) := by
      rw [← ten_zpow_add]
      refine lt_of_le_of_lt hlow ?_
      gcongr
    exact (zpow_lt_zpow_iff_right₀ hone).1 hpow
  · have hdigits' : (10 : ℚ) ^ ((decimalLength digits - 1 : Nat) : Int) ≤ digits := by
      exact_mod_cast ten_pow_le hdigits
    have hpow : (10 : ℚ) ^ (((decimalLength digits - 1 : Nat) : Int) + exponent) <
        10 ^ (310 : Int) := by
      rw [← ten_zpow_add]
      refine lt_of_le_of_lt ?_ hhigh
      gcongr
    have hplace := (zpow_lt_zpow_iff_right₀ hone).1 hpow
    omega

theorem ofTrimmed_eq (hx : x.mantissa ≠ 0) {digits : Nat} {exponent : Int}
    (h : (digits * 10 ^ exponent : ℚ) = x.magnitude) :
    ofTrimmed x.negative digits exponent = some x := by
  have hdigits : digits ≠ 0 := by
    rintro rfl
    have hpos := magnitude_pos hx
    rw [← h] at hpos
    simp at hpos
  obtain ⟨hlow, hhigh⟩ := place_bounds hx hdigits h
  have hzero : ¬ (decide (digits = 0) ||
      decide ((decimalLength digits : Int) + exponent < -330)) = true := by
    simp only [Bool.or_eq_true, decide_eq_true_eq]
    omega
  rw [ofTrimmed, if_neg hzero, if_neg (not_lt.2 hhigh)]
  split
  · rename_i hexponent
    obtain ⟨k, rfl⟩ := Int.eq_ofNat_of_zero_le hexponent
    refine nearest_eq hx Nat.one_pos ?_
    rw [← h]
    simp
  · obtain ⟨k, rfl⟩ : ∃ k : Nat, exponent = -k := ⟨(-exponent).toNat, by omega⟩
    refine nearest_eq hx (Nat.pow_pos (by decide)) ?_
    rw [← h]
    simp [div_eq_mul_inv]

theorem trimZeros_value (digits : Nat) (exponent : Int) :
    ((trimZeros digits exponent).1 * 10 ^ (trimZeros digits exponent).2 : ℚ) =
      digits * 10 ^ exponent := by
  induction digits, exponent using trimZeros.induct with
  | case1 digits exponent h ih =>
    have hdigits : (digits : ℚ) = (digits / 10 : Nat) * 10 := by
      exact_mod_cast (Nat.div_mul_cancel (Nat.dvd_of_mod_eq_zero h.2)).symm
    rw [trimZeros, dif_pos h, ih, hdigits, mul_assoc, zpow_add_one₀ (by norm_num), mul_comm 10]
  | case2 digits exponent h => rw [trimZeros, dif_neg h]

/-- The double nearest to a decimal of the value of a double is that double. -/
theorem ofDecimal_eq (hx : x.mantissa ≠ 0) {digits : Nat} {exponent : Int}
    (h : (digits * 10 ^ exponent : ℚ) = x.magnitude) :
    ofDecimal x.negative digits exponent = some x :=
  ofTrimmed_eq hx ((trimZeros_value digits exponent).trans h)

theorem exact_value (x : Double) : (x.exact.1 * 10 ^ x.exact.2 : ℚ) = x.magnitude := by
  rw [exact, magnitude]
  split
  · rename_i hexponent
    generalize x.exponent = exponent at hexponent
    obtain ⟨k, rfl⟩ := Int.eq_ofNat_of_zero_le hexponent
    simp
  · rename_i hexponent
    generalize x.exponent = exponent at hexponent
    obtain ⟨k, rfl⟩ : ∃ k : Nat, exponent = -k := ⟨(-exponent).toNat, by omega⟩
    have hten : (10 : ℚ) ^ k = 5 ^ k * 2 ^ k := by rw [← mul_pow]; norm_num
    simp only [neg_neg, Int.toNat_natCast, Nat.pow_eq, Nat.cast_mul, Nat.cast_pow, Nat.cast_ofNat,
      zpow_neg, zpow_natCast, hten]
    field_simp

/-! ### Written decimals -/

theorem eq_zero_of_mantissa (h : x.mantissa = 0) : x = zero x.negative := by
  obtain ⟨negative, mantissa, exponent, valid⟩ := x
  obtain rfl : mantissa = 0 := h
  obtain rfl : exponent = -1074 := by
    rcases valid.2.1 with hleast | he
    · cases hleast
    · exact he
  rfl

theorem ofDecimal_zero (negative : Bool) (exponent : Int) :
    ofDecimal negative 0 exponent = some (zero negative) := by
  simp [ofDecimal, trimZeros, ofTrimmed]

theorem ofDecimal_exact (x : Double) :
    ofDecimal x.negative x.exact.1 x.exact.2 = some x := by
  by_cases hx : x.mantissa = 0
  · have hzero : x.exact.1 = 0 := by
      rw [exact]
      split <;> simp [hx]
    rw [hzero, ofDecimal_zero, ← eq_zero_of_mantissa hx]
  · exact ofDecimal_eq hx x.exact_value

theorem ofDecimal_onGrid {k : Int} {c : Nat} (h : x.onGrid k = some c) :
    ofDecimal x.negative c k = some x := by
  rw [onGrid] at h
  generalize x.overPowerOfTen k = scaled at h
  obtain ⟨n, d⟩ := scaled
  dsimp only at h
  split at h
  · rename_i hlow hhigh
    have hrounded : roundHalfEven n d = n / d ∨ roundHalfEven n d = n / d + 1 := by
      rw [roundHalfEven]
      split
      · exact .inl rfl
      · exact .inr rfl
    rw [← Option.some.inj h]
    rcases hrounded with he | he
    · rw [he]
      exact beq_iff_eq.1 hlow
    · rw [he]
      exact beq_iff_eq.1 hhigh
  · rename_i hlow _
    rw [← Option.some.inj h]
    exact beq_iff_eq.1 hlow
  · rename_i _ hhigh
    rw [← Option.some.inj h]
    exact beq_iff_eq.1 hhigh
  · cases h

theorem ofDecimal_search (x : Double) (tries : Nat) (k : Int) :
    ofDecimal x.negative (x.search tries k).1 (x.search tries k).2 = some x := by
  induction tries generalizing k with
  | zero => exact x.ofDecimal_exact
  | succ tries ih =>
    rw [search]
    split
    · exact ofDecimal_onGrid ‹_›
    · exact ih (k - 1)

/-- A double is the nearest one to the decimal that is written for it. -/
theorem ofDecimal_shortest (x : Double) :
    ofDecimal x.negative x.shortest.1 x.shortest.2 = some x :=
  x.ofDecimal_search 20 _

end SparkAdmission.Double
