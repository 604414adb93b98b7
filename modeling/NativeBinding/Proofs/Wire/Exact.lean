import Mathlib
import NativeBinding.Wire.Arithmetic
import NativeBinding.Wire.Word

namespace NativeBinding.Wire

theorem powerOfTwo_add (a b : Nat) : powerOfTwo (a + b) = powerOfTwo a * powerOfTwo b := pow_add 2 a b

theorem powerOfTwo_pos (count : Nat) : 0 < powerOfTwo count := Nat.pow_pos (by decide)

theorem powerOfTwo_cast (count : Nat) : (powerOfTwo count : ℚ) = 2 ^ (count : ℤ) := by
  rw [zpow_natCast]
  exact Nat.cast_pow 2 count

namespace FloatFormat
variable {format : FloatFormat}

def amount (format : FloatFormat) (bits : Nat) : ℚ := format.significand bits * 2 ^ format.exponent bits

-- A count of units as a pattern stores it: the unit is the least one raised by a
-- number of steps, and a raised unit is never finer than the count needs.
structure Place (format : FloatFormat) (step count : Nat) : Prop where
  small : count < 2 * powerOfTwo format.fractionBits
  full : step = 0 ∨ powerOfTwo format.fractionBits ≤ count

def placed (format : FloatFormat) (step count : Nat) : Nat := step * powerOfTwo format.fractionBits + count

theorem signBit_eq : format.signBit = powerOfTwo format.fractionBits * powerOfTwo format.exponentBits :=
  powerOfTwo_add _ _

theorem magnitude_mod (bits : Nat) :
    format.magnitude bits % powerOfTwo format.fractionBits = bits % powerOfTwo format.fractionBits := by
  rw [magnitude,signBit_eq,Nat.mod_mul_right_mod]

theorem magnitude_magnitude (bits : Nat) : format.magnitude (format.magnitude bits) = format.magnitude bits :=
  Nat.mod_mod _ _

theorem significand_magnitude (bits : Nat) :
    format.significand (format.magnitude bits) = format.significand bits := by
  simp only [significand,magnitude_magnitude,magnitude_mod]

theorem exponent_magnitude (bits : Nat) : format.exponent (format.magnitude bits) = format.exponent bits := by
  simp only [exponent,magnitude_magnitude]

theorem amount_magnitude (bits : Nat) : format.amount (format.magnitude bits) = format.amount bits := by
  simp only [amount,significand_magnitude,exponent_magnitude]

theorem magnitude_of_lt {bits : Nat} (small : bits < format.signBit) : format.magnitude bits = bits :=
  Nat.mod_eq_of_lt small

theorem place_exists (format : FloatFormat) (bits : Nat) : ∃ step, format.Place step (format.significand bits) ∧
    format.magnitude bits = format.placed step (format.significand bits) ∧
    format.exponent bits = format.leastExponent + step := by
  have unit := powerOfTwo_pos format.fractionBits
  have fraction := Nat.mod_lt bits unit
  have split := Nat.mod_add_div (format.magnitude bits) (powerOfTwo format.fractionBits)
  rw [magnitude_mod] at split
  by_cases low : format.magnitude bits < powerOfTwo format.fractionBits
  · have field : format.magnitude bits / powerOfTwo format.fractionBits = 0 := Nat.div_eq_of_lt low
    rw [field,Nat.mul_zero] at split
    refine ⟨0,⟨?_,.inl rfl⟩,?_,?_⟩
    · simp only [significand,if_pos low]; omega
    · simp only [significand,placed,if_pos low]; omega
    · simp [exponent,field]
  · have field : 0 < format.magnitude bits / powerOfTwo format.fractionBits := Nat.div_pos (by omega) unit
    obtain ⟨step,step_eq⟩ := Nat.exists_eq_succ_of_ne_zero field.ne'
    rw [step_eq,Nat.mul_succ,Nat.mul_comm] at split
    refine ⟨step,⟨?_,.inr ?_⟩,?_,?_⟩
    · simp only [significand,if_neg low]; omega
    · simp only [significand,if_neg low]; omega
    · simp only [significand,placed,if_neg low]; omega
    · simp [exponent,step_eq]

theorem placed_parts {step count : Nat} (place : format.Place step count)
    (small : format.placed step count < format.signBit) :
    format.significand (format.placed step count) = count ∧
      format.exponent (format.placed step count) = format.leastExponent + step := by
  have unit := powerOfTwo_pos format.fractionBits
  have bound := place.small
  simp only [significand,exponent,magnitude_of_lt small]
  rcases Nat.lt_or_ge count (powerOfTwo format.fractionBits) with low | high
  · obtain rfl : step = 0 := place.full.resolve_right (by omega)
    have same : format.placed 0 count = count := by simp [placed]
    rw [same,if_pos low,Nat.mod_eq_of_lt low,Nat.div_eq_of_lt low]
    simp
  · have shape : format.placed step count =
        (count - powerOfTwo format.fractionBits) + powerOfTwo format.fractionBits * (step + 1) := by
      rw [placed,Nat.mul_comm,Nat.mul_succ]; omega
    have above : ¬ format.placed step count < powerOfTwo format.fractionBits := by
      rw [shape,Nat.mul_succ]; omega
    have rest : count - powerOfTwo format.fractionBits < powerOfTwo format.fractionBits := by omega
    rw [if_neg above,shape,Nat.add_mul_mod_self_left,Nat.mod_eq_of_lt rest,
      Nat.add_mul_div_left _ _ unit,Nat.div_eq_of_lt rest]
    refine ⟨by omega,?_⟩
    simp

theorem amount_placed {step count : Nat} (place : format.Place step count)
    (small : format.placed step count < format.signBit) :
    format.amount (format.placed step count) = count * 2 ^ (format.leastExponent + step) := by
  obtain ⟨significand_eq,exponent_eq⟩ := placed_parts place small
  rw [amount,significand_eq,exponent_eq]

theorem leading_bit {a b : Nat} {x y : ℤ} (positive : 0 < a)
    (same : (a : ℚ) * 2 ^ x = b * 2 ^ y) : (a.log2 : ℤ) + x = b.log2 + y := by
  have positive' : 0 < b := by
    rcases Nat.eq_zero_or_pos b with rfl | h
    · have : (a : ℚ) * 2 ^ x = 0 := by simpa using same
      rcases mul_eq_zero.mp this with zero | zero
      · exact absurd (by exact_mod_cast zero) positive.ne'
      · exact absurd zero (zpow_ne_zero _ two_ne_zero)
    · exact h
  have bounds : ∀ {n : Nat} (z : ℤ), 0 < n →
      (2 : ℚ) ^ ((n.log2 : ℤ) + z) ≤ n * 2 ^ z ∧ (n : ℚ) * 2 ^ z < 2 ^ ((n.log2 : ℤ) + 1 + z) := by
    intro n z h
    have low : (2 : ℚ) ^ (n.log2 : ℤ) ≤ n := by
      rw [zpow_natCast]; exact_mod_cast Nat.log2_self_le h.ne'
    have high : (n : ℚ) < 2 ^ ((n.log2 : ℤ) + 1) := by
      rw [← Nat.cast_one,← Nat.cast_add,zpow_natCast]; exact_mod_cast Nat.lt_log2_self
    have scale : (0 : ℚ) < 2 ^ z := zpow_pos two_pos z
    rw [zpow_add₀ two_ne_zero,zpow_add₀ two_ne_zero (_ + 1)]
    exact ⟨mul_le_mul_of_nonneg_right low scale.le,mul_lt_mul_of_pos_right high scale⟩
  obtain ⟨lowA,highA⟩ := bounds x positive
  obtain ⟨lowB,highB⟩ := bounds y positive'
  rw [same] at lowA highA
  have one := (zpow_lt_zpow_iff_right₀ (by norm_num : (1 : ℚ) < 2)).mp (lowA.trans_lt highB)
  have two := (zpow_lt_zpow_iff_right₀ (by norm_num : (1 : ℚ) < 2)).mp (lowB.trans_lt highA)
  omega

theorem leading_of_place {step count : Nat} (place : format.Place step count) (positive : 0 < count) :
    max format.leastExponent (count.log2 + (format.leastExponent + step) - format.fractionBits) =
      format.leastExponent + step := by
  have below : count.log2 < format.fractionBits + 1 := by
    rw [Nat.log2_lt positive.ne']
    have small := place.small
    rw [← show powerOfTwo (format.fractionBits + 1) = 2 ^ (format.fractionBits + 1) from rfl,powerOfTwo_add]
    simpa [Nat.mul_comm,powerOfTwo] using small
  rcases place.full with rfl | full
  · simp; omega
  · have above : format.fractionBits ≤ count.log2 := (Nat.le_log2 positive.ne').mpr full
    omega

theorem halfEven_mul (count divisor : Nat) (positive : 0 < divisor) : halfEven (count * divisor) divisor = count := by
  simp [halfEven,Nat.mul_div_cancel _ positive,positive]

theorem round_placed {step count value : Nat} {scale : ℤ} (place : format.Place step count)
    (same : (value : ℚ) * 2 ^ scale = count * 2 ^ (format.leastExponent + step)) :
    format.round value scale = format.placed step count := by
  have two : (2 : ℚ) ≠ 0 := two_ne_zero
  rcases Nat.eq_zero_or_pos value with rfl | positive
  · have zero : count = 0 := by
      have : (count : ℚ) * 2 ^ (format.leastExponent + step) = 0 := by simpa using same.symm
      exact_mod_cast (mul_eq_zero.mp this).resolve_right (zpow_ne_zero _ two)
    have unit := powerOfTwo_pos format.fractionBits
    obtain rfl : step = 0 := place.full.resolve_right (by omega)
    simp [round,placed,zero]
  · have leading := leading_bit positive same
    have positive' : 0 < count := by
      rcases Nat.eq_zero_or_pos count with rfl | h
      · have : (value : ℚ) * 2 ^ scale = 0 := by simpa using same
        exact absurd (by exact_mod_cast (mul_eq_zero.mp this).resolve_right (zpow_ne_zero _ two)) positive.ne'
      · exact h
    have unit : max format.leastExponent (scale + value.log2 - format.fractionBits) = format.leastExponent + step := by
      rw [← leading_of_place place positive']
      congr 1
      omega
    simp only [round,if_neg positive.ne',unit]
    have steps : (format.leastExponent + step - format.leastExponent).toNat = step := by omega
    rw [steps,placed]
    congr 1
    split
    · rename_i coarse
      have raised : (value : ℚ) * 2 ^ (scale - (format.leastExponent + step)) = count := by
        rw [zpow_sub₀ two,← mul_div_assoc,same,mul_div_assoc,div_self (zpow_ne_zero _ two),mul_one]
      have cast : (((scale - (format.leastExponent + step)).toNat : ℕ) : ℤ) =
          scale - (format.leastExponent + step) := by omega
      rw [← cast,← powerOfTwo_cast] at raised
      exact_mod_cast raised
    · rename_i fine
      have lowered : (value : ℚ) = count * 2 ^ (format.leastExponent + step - scale) := by
        rw [zpow_sub₀ two,← mul_div_assoc,← same,mul_div_assoc,div_self (zpow_ne_zero _ two),mul_one]
      have cast : (((format.leastExponent + step - scale).toNat : ℕ) : ℤ) =
          format.leastExponent + step - scale := by omega
      rw [← cast,← powerOfTwo_cast] at lowered
      have product : value = count * powerOfTwo (format.leastExponent + step - scale).toNat := by
        exact_mod_cast lowered
      rw [product]
      exact halfEven_mul _ _ (powerOfTwo_pos _)

-- A count of at most as many bits as the format has takes a place there. Its unit
-- is not raised above its own.
theorem place_of_count (format : FloatFormat) {count : Nat} {power : ℤ} (small : count < 2 * powerOfTwo format.fractionBits)
    (least : format.leastExponent ≤ power) :
    ∃ step count', format.Place step count' ∧ format.leastExponent + step ≤ power ∧
      (count : ℚ) * 2 ^ power = count' * 2 ^ (format.leastExponent + step) := by
  rcases Nat.eq_zero_or_pos count with rfl | positive
  · exact ⟨0,0,⟨by have := powerOfTwo_pos format.fractionBits; omega,.inl rfl⟩,by simpa using least,by simp⟩
  have high : count.log2 ≤ format.fractionBits := by
    have : count.log2 < format.fractionBits + 1 := by
      rw [Nat.log2_lt positive.ne',← show powerOfTwo (format.fractionBits + 1) = 2 ^ (format.fractionBits + 1) from rfl,
        powerOfTwo_add]
      simpa [Nat.mul_comm,powerOfTwo] using small
    omega
  -- The count moves up to the leading place, or as far as the least unit allows.
  obtain ⟨shift,shift_eq⟩ : ∃ shift : Nat, shift = min (format.fractionBits - count.log2) (power - format.leastExponent).toNat :=
    ⟨_,rfl⟩
  obtain ⟨step,step_eq⟩ : ∃ step : Nat, (step : ℤ) = power - format.leastExponent - shift :=
    ⟨(power - format.leastExponent - shift).toNat,by omega⟩
  have lower := Nat.log2_self_le positive.ne'
  have upper := Nat.lt_log2_self (n := count)
  refine ⟨step,count * powerOfTwo shift,⟨?_,?_⟩,by omega,?_⟩
  · have bound : count * powerOfTwo shift < powerOfTwo (count.log2 + 1) * powerOfTwo shift :=
      Nat.mul_lt_mul_of_pos_right upper (powerOfTwo_pos _)
    have fits : powerOfTwo (count.log2 + 1 + shift) ≤ powerOfTwo (1 + format.fractionBits) :=
      Nat.pow_le_pow_right (by decide) (by omega)
    rw [← powerOfTwo_add] at bound
    rw [powerOfTwo_add 1] at fits
    exact lt_of_lt_of_le bound fits
  · by_cases grounded : step = 0
    · exact .inl grounded
    · right
      have full : count.log2 + shift = format.fractionBits := by omega
      rw [← full,powerOfTwo_add]
      exact Nat.mul_le_mul_right _ lower
  · have total : format.leastExponent + step = power - shift := by omega
    rw [total,Nat.cast_mul,powerOfTwo_cast,mul_assoc,← zpow_add₀ (two_ne_zero : (2 : ℚ) ≠ 0)]
    congr 2
    omega

end FloatFormat
end NativeBinding.Wire
