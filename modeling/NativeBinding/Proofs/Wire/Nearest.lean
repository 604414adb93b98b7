import NativeBinding.Proofs.Wire.Narrow
import NativeBinding.Wire.Arithmetic

namespace NativeBinding.Wire

-- A count that no other one is nearer to an amount than. If another one is as near, it is even.
structure Closest (amount : ℚ) (count : Nat) : Prop where
  near : ∀ other : Nat, |(count : ℚ) - amount| ≤ |(other : ℚ) - amount|
  even : ∀ other : Nat, |(other : ℚ) - amount| = |(count : ℚ) - amount| → other = count ∨ count % 2 = 0

section
variable {amount other : ℚ} {count limit : Nat}

theorem closest_nat (count : Nat) : Closest count count := by
  refine ⟨?_,?_⟩
  · intro other
    simp
  · intro other same
    left
    rw [sub_self,abs_zero,abs_eq_zero,sub_eq_zero] at same
    exact_mod_cast same

theorem Closest.le (closest : Closest amount count) (under : amount ≤ limit) : count ≤ limit := by
  have bound := closest.near limit
  rw [abs_of_nonneg (sub_nonneg.mpr under)] at bound
  have upper := (abs_le.mp bound).2
  have most : (count : ℚ) ≤ limit := by linarith
  exact_mod_cast most

theorem Closest.ge (closest : Closest amount count) (beyond : (limit : ℚ) ≤ amount) : limit ≤ count := by
  have bound := closest.near limit
  rw [abs_of_nonpos (sub_nonpos.mpr beyond)] at bound
  have lower := (abs_le.mp bound).1
  have least : (limit : ℚ) ≤ count := by linarith
  exact_mod_cast least

theorem Closest.nearer (closest : Closest amount count) (beyond : (limit : ℚ) ≤ amount) (below : other < limit) :
    |(count : ℚ) - amount| < |other - amount| := by
  have bound := closest.near limit
  rw [abs_of_nonpos (sub_nonpos.mpr beyond)] at bound
  rw [abs_of_neg (show other - amount < 0 by linarith)]
  linarith

end

namespace FloatFormat
variable {format : FloatFormat} {value : Nat} {scale : ℤ}

structure Nearest (format : FloatFormat) (amount : ℚ) (bits : Nat) : Prop where
  finite : bits < format.infinity
  near : ∀ other < format.infinity, |format.amount bits - amount| ≤ |format.amount other - amount|
  even : ∀ other < format.infinity, |format.amount other - amount| = |format.amount bits - amount| → other = bits ∨ bits % 2 = 0

theorem halfEven_cases (value divisor : Nat) :
    (halfEven value divisor = value / divisor ∧ 2 * (value % divisor) ≤ divisor ∧
      (2 * (value % divisor) = divisor → value / divisor % 2 = 0)) ∨
    (halfEven value divisor = value / divisor + 1 ∧ divisor ≤ 2 * (value % divisor) ∧
      (2 * (value % divisor) = divisor → (value / divisor + 1) % 2 = 0)) := by
  unfold halfEven
  dsimp only
  split_ifs with low high even
  · exact .inl ⟨rfl,by omega,by omega⟩
  · exact .inr ⟨rfl,by omega,by omega⟩
  · exact .inl ⟨rfl,by omega,fun _ => even⟩
  · exact .inr ⟨rfl,by omega,by omega⟩

theorem multiple_distance (value divisor other : Nat) (positive : 0 < divisor) :
    |((other : ℤ) * divisor - value)| =
      if other ≤ value / divisor then ((value / divisor - other : Nat) : ℤ) * divisor + (value % divisor : Nat)
      else ((other - (value / divisor + 1) : Nat) : ℤ) * divisor + (divisor - (value % divisor : Nat)) := by
  have split : (value : ℤ) = (value / divisor : Nat) * divisor + (value % divisor : Nat) := by
    exact_mod_cast (Nat.div_add_mod' value divisor).symm
  have bound := Nat.mod_lt value positive
  generalize value / divisor = quotient at split ⊢
  generalize value % divisor = rest at split bound ⊢
  rw [split]
  split_ifs with side
  · obtain ⟨more,rfl⟩ := Nat.exists_eq_add_of_le side
    have size : (0 : ℤ) ≤ more * divisor := by positivity
    rw [Nat.add_sub_cancel_left,abs_eq (by omega)]
    right
    push_cast
    ring
  · obtain ⟨more,rfl⟩ := Nat.exists_eq_add_of_le (Nat.lt_of_not_le side)
    have size : (0 : ℤ) ≤ more * divisor := by positivity
    rw [Nat.add_sub_cancel_left,abs_eq (by omega)]
    left
    push_cast
    ring

theorem halfEven_distance (value divisor other : Nat) (positive : 0 < divisor) :
    |((halfEven value divisor : ℤ) * divisor - value)| ≤ |((other : ℤ) * divisor - value)| ∧
    (|((other : ℤ) * divisor - value)| = |((halfEven value divisor : ℤ) * divisor - value)| →
      other = halfEven value divisor ∨ halfEven value divisor % 2 = 0) := by
  have bound := Nat.mod_lt value positive
  have apart (count : Nat) : (count = 0 ∧ (count : ℤ) * divisor = 0) ∨ (divisor : ℤ) ≤ count * divisor := by
    rcases Nat.eq_zero_or_pos count with rfl | some
    · exact .inl ⟨rfl,by simp⟩
    · exact .inr (by exact_mod_cast Nat.le_mul_of_pos_left divisor some)
  have under := apart (value / divisor - other)
  have beyond := apart (other - (value / divisor + 1))
  rw [multiple_distance value divisor other positive,multiple_distance value divisor _ positive]
  rcases halfEven_cases value divisor with ⟨same,half,even⟩ | ⟨same,half,even⟩
  · rw [same,if_pos (Nat.le_refl _),Nat.sub_self]
    split_ifs with side <;> constructor <;> omega
  · rw [same,if_neg (by omega),Nat.sub_self]
    split_ifs with side <;> constructor <;> omega

theorem halfEven_closest (value divisor : Nat) (positive : 0 < divisor) :
    Closest ((value : ℚ) / divisor) (halfEven value divisor) := by
  have above : (0 : ℚ) < divisor := by exact_mod_cast positive
  have lift (other : Nat) : |(other : ℚ) - value / divisor| = ((|((other : ℤ) * divisor - value)| : ℤ) : ℚ) / divisor := by
    have whole : (other : ℚ) - value / divisor = (other * divisor - value) / divisor := by
      field_simp
    rw [whole,abs_div,abs_of_pos above]
    push_cast
    rfl
  refine ⟨?_,?_⟩
  · intro other
    rw [lift,lift]
    apply div_le_div_of_nonneg_right _ above.le
    exact_mod_cast (halfEven_distance value divisor other positive).1
  · intro other same
    rw [lift,lift,div_left_inj' above.ne'] at same
    exact (halfEven_distance value divisor other positive).2 (by exact_mod_cast same)

theorem infinity_lt : format.infinity < format.signBit := by
  have unit := powerOfTwo_pos format.fractionBits
  have whole := powerOfTwo_pos format.exponentBits
  rw [signBit_eq,infinity,Nat.mul_comm (powerOfTwo format.fractionBits)]
  exact Nat.mul_lt_mul_of_pos_right (by omega) unit

theorem round_parts (positive : 0 < value) : ∃ step count, format.round value scale = format.placed step count ∧
    Closest (value * 2 ^ (scale - (format.leastExponent + step))) count ∧
    (value : ℚ) * 2 ^ (scale - (format.leastExponent + step)) < 2 * powerOfTwo format.fractionBits ∧
    (step = 0 ∨ (powerOfTwo format.fractionBits : ℚ) ≤ value * 2 ^ (scale - (format.leastExponent + step))) := by
  obtain ⟨unit,unit_eq⟩ : ∃ unit, unit = max format.leastExponent (scale + value.log2 - format.fractionBits) := ⟨_,rfl⟩
  obtain ⟨step,step_eq⟩ : ∃ step : Nat, unit = format.leastExponent + step :=
    ⟨(unit - format.leastExponent).toNat,by omega⟩
  have low : (2 : ℚ) ^ (value.log2 : ℤ) ≤ value := by
    rw [zpow_natCast]
    exact_mod_cast Nat.log2_self_le positive.ne'
  have high : (value : ℚ) < 2 ^ ((value.log2 : ℤ) + 1) := by
    rw [← Nat.cast_one,← Nat.cast_add,zpow_natCast]
    exact_mod_cast Nat.lt_log2_self
  have raised : (0 : ℚ) < 2 ^ (scale - unit) := zpow_pos two_pos _
  refine ⟨step,if unit ≤ scale then value * powerOfTwo (scale - unit).toNat
    else halfEven value (powerOfTwo (unit - scale).toNat),?_,?_,?_,?_⟩
  · simp only [round,if_neg positive.ne',← unit_eq,placed]
    congr 2
    omega
  · rw [← step_eq]
    split_ifs with coarse
    · have whole : (value : ℚ) * 2 ^ (scale - unit) = ((value * powerOfTwo (scale - unit).toNat : Nat) : ℚ) := by
        rw [Nat.cast_mul,powerOfTwo_cast,Int.toNat_of_nonneg (by omega)]
      rw [whole]
      exact closest_nat _
    · have quotient : (value : ℚ) * 2 ^ (scale - unit) = value / (powerOfTwo (unit - scale).toNat : Nat) := by
        rw [powerOfTwo_cast,Int.toNat_of_nonneg (by omega),div_eq_mul_inv,← zpow_neg,neg_sub]
      rw [quotient]
      exact halfEven_closest _ _ (powerOfTwo_pos _)
  · rw [← step_eq]
    calc (value : ℚ) * 2 ^ (scale - unit) < 2 ^ ((value.log2 : ℤ) + 1) * 2 ^ (scale - unit) :=
          mul_lt_mul_of_pos_right high raised
      _ = 2 ^ ((value.log2 : ℤ) + 1 + (scale - unit)) := (zpow_add₀ two_ne_zero _ _).symm
      _ ≤ 2 ^ (1 + (format.fractionBits : ℤ)) := zpow_le_zpow_right₀ (by norm_num) (by omega)
      _ = 2 * powerOfTwo format.fractionBits := by rw [zpow_add₀ two_ne_zero,powerOfTwo_cast,zpow_one]
  · rw [← step_eq]
    by_cases grounded : step = 0
    · exact .inl grounded
    · right
      calc (powerOfTwo format.fractionBits : ℚ) = 2 ^ ((value.log2 : ℤ) + (scale - unit)) := by
            rw [powerOfTwo_cast]
            congr 1
            omega
        _ = 2 ^ (value.log2 : ℤ) * 2 ^ (scale - unit) := zpow_add₀ two_ne_zero _ _
        _ ≤ value * 2 ^ (scale - unit) := mul_le_mul_of_nonneg_right low raised.le

-- A count that is rounded up to twice the unit moves to the next place.
theorem amount_rounded {step count : Nat} (few : count ≤ 2 * powerOfTwo format.fractionBits)
    (full : step = 0 ∨ powerOfTwo format.fractionBits ≤ count) (small : format.placed step count < format.signBit) :
    format.amount (format.placed step count) = count * 2 ^ (format.leastExponent + step) := by
  rcases Nat.lt_or_ge count (2 * powerOfTwo format.fractionBits) with less | most
  · exact amount_placed ⟨less,full⟩ small
  · have unit := powerOfTwo_pos format.fractionBits
    obtain rfl : count = 2 * powerOfTwo format.fractionBits := by omega
    have carried : format.placed step (2 * powerOfTwo format.fractionBits) =
        format.placed (step + 1) (powerOfTwo format.fractionBits) := by
      unfold placed
      ring
    rw [carried] at small ⊢
    rw [amount_placed ⟨by omega,.inr (Nat.le_refl _)⟩ small]
    have next : format.leastExponent + ((step + 1 : Nat) : ℤ) = format.leastExponent + step + 1 := by
      push_cast
      ring
    rw [next,zpow_add_one₀ two_ne_zero]
    push_cast
    ring

theorem amount_injective {bits other : Nat} (small : bits < format.signBit) (small' : other < format.signBit)
    (same : format.amount bits = format.amount other) : bits = other := by
  obtain ⟨step,place,shape,unit⟩ := place_exists format bits
  obtain ⟨step',place',shape',unit'⟩ := place_exists format other
  rw [magnitude_of_lt small] at shape
  rw [magnitude_of_lt small'] at shape'
  have first : format.round (format.significand bits) (format.exponent bits) = bits := by
    rw [round_placed place (by rw [unit]),← shape]
  have second : format.round (format.significand bits) (format.exponent bits) = other := by
    rw [round_placed place' (by rw [← unit']; exact same),← shape']
  exact first.symm.trans second

-- Each number is a count of a given unit, or it is finer and then less than what needs this unit.
theorem amount_grid (format : FloatFormat) (bits step : Nat) :
    (∃ count : Nat, format.amount bits = count * 2 ^ (format.leastExponent + step)) ∨
    (0 < step ∧ format.amount bits < powerOfTwo format.fractionBits * 2 ^ (format.leastExponent + step)) := by
  obtain ⟨own,place,_,unit⟩ := place_exists format bits
  rw [amount,unit]
  by_cases coarse : step ≤ own
  · left
    refine ⟨format.significand bits * powerOfTwo (own - step),?_⟩
    rw [Nat.cast_mul,powerOfTwo_cast,mul_assoc,← zpow_add₀ two_ne_zero]
    congr 2
    omega
  · right
    have raised : (0 : ℚ) < 2 ^ (format.leastExponent + own) := zpow_pos two_pos _
    have few : (format.significand bits : ℚ) < 2 * powerOfTwo format.fractionBits := by exact_mod_cast place.small
    refine ⟨by omega,?_⟩
    calc (format.significand bits : ℚ) * 2 ^ (format.leastExponent + own)
      _ < 2 * powerOfTwo format.fractionBits * 2 ^ (format.leastExponent + own) := mul_lt_mul_of_pos_right few raised
      _ = powerOfTwo format.fractionBits * 2 ^ (format.leastExponent + own + 1) := by
        rw [zpow_add_one₀ two_ne_zero]
        ring
      _ ≤ powerOfTwo format.fractionBits * 2 ^ (format.leastExponent + step) := by
        apply mul_le_mul_of_nonneg_left _ (Nat.cast_nonneg _)
        exact zpow_le_zpow_right₀ one_le_two (by omega)

theorem placed_even {step count : Nat} (fractions : 0 < format.fractionBits) (even : count % 2 = 0) :
    format.placed step count % 2 = 0 := by
  obtain ⟨bits,bits_eq⟩ := Nat.exists_eq_succ_of_ne_zero fractions.ne'
  have unit : powerOfTwo format.fractionBits = powerOfTwo bits * 2 := by
    rw [bits_eq]
    exact pow_succ 2 bits
  rw [placed,unit,← Nat.mul_assoc]
  omega

-- The closest count of units is the nearest number, if nothing finer is as near.
theorem nearest_of_closest {share : ℚ} {step count bits : Nat} (closest : Closest share count)
    (full : step = 0 ∨ (powerOfTwo format.fractionBits : ℚ) ≤ share) (finite : bits < format.infinity)
    (own : format.amount bits = count * 2 ^ (format.leastExponent + step)) (even : count % 2 = 0 → bits % 2 = 0) :
    format.Nearest (share * 2 ^ (format.leastExponent + step)) bits := by
  obtain ⟨unit,unit_eq⟩ : ∃ unit : ℚ, unit = 2 ^ (format.leastExponent + step) := ⟨_,rfl⟩
  have raised : 0 < unit := unit_eq ▸ zpow_pos two_pos _
  have grid := fun other => amount_grid format other step
  rw [← unit_eq] at own ⊢
  simp only [← unit_eq] at grid
  have distance (other : Nat) (multiple : ℚ) (equal : format.amount other = multiple * unit) :
      |format.amount other - share * unit| = |multiple - share| * unit := by
    rw [equal,← sub_mul,abs_mul,abs_of_pos raised]
  have rest := distance bits count own
  -- A finer number is below the count that the unit is needed for.
  have finer (other : Nat) (under : 0 < step ∧ format.amount other < powerOfTwo format.fractionBits * unit) :
      |format.amount bits - share * unit| < |format.amount other - share * unit| := by
    have below : format.amount other / unit < powerOfTwo format.fractionBits := (div_lt_iff₀ raised).mpr under.2
    rw [rest,distance other (format.amount other / unit) (div_mul_cancel₀ _ raised.ne').symm]
    exact mul_lt_mul_of_pos_right (closest.nearer (full.resolve_left under.1.ne') below) raised
  refine ⟨finite,?_,?_⟩
  · intro other _
    rcases grid other with ⟨multiple,equal⟩ | under
    · rw [rest,distance other multiple equal]
      exact mul_le_mul_of_nonneg_right (closest.near multiple) raised.le
    · exact (finer other under).le
  · intro other small same
    rcases grid other with ⟨multiple,equal⟩ | under
    · rw [rest,distance other multiple equal,mul_left_inj' raised.ne'] at same
      rcases closest.even multiple same with rfl | twice
      · left
        apply amount_injective (small.trans infinity_lt) (finite.trans infinity_lt)
        rw [own,equal]
      · exact .inr (even twice)
    · exact absurd same.symm (finer other under).ne

theorem nearest_zero (finite : 0 < format.infinity) : format.Nearest 0 0 := by
  have zero : format.amount 0 = 0 := by
    have least : format.significand 0 = 0 := by simp [significand,magnitude,powerOfTwo_pos]
    simp [amount,least]
  refine ⟨finite,?_,fun _ _ _ => .inr rfl⟩
  intro other _
  simp [zero]

theorem round_nearest (fractions : 0 < format.fractionBits) (finite : format.round value scale < format.infinity) :
    format.Nearest (value * 2 ^ scale) (format.round value scale) := by
  rcases Nat.eq_zero_or_pos value with rfl | positive
  · have zero : format.round 0 scale = 0 := by simp [round]
    rw [zero] at finite ⊢
    rw [Nat.cast_zero,zero_mul]
    exact nearest_zero finite
  obtain ⟨step,count,rounded,closest,few,full⟩ := @round_parts format value scale positive
  have most : count ≤ 2 * powerOfTwo format.fractionBits := by
    apply closest.le
    push_cast
    exact few.le
  have whole : (value : ℚ) * 2 ^ scale =
      value * 2 ^ (scale - (format.leastExponent + step)) * 2 ^ (format.leastExponent + step) := by
    rw [mul_assoc,← zpow_add₀ two_ne_zero,sub_add_cancel]
  rw [rounded] at finite ⊢
  rw [whole]
  apply nearest_of_closest closest full finite
  · exact amount_rounded most (full.imp_right closest.ge) (finite.trans infinity_lt)
  · exact placed_even fractions

end FloatFormat

namespace Double
open FloatFormat
variable {value : Double} {bits : Nat}

inductive Rounds (value : Double) : Double → Prop
  | nothing : value.isNan → rounded.isNan → Rounds value rounded
  | infinite : value.isInfinite → Rounds value value
  | finite : double.magnitude value.pattern < double.infinity → single.Nearest value.amount nearest →
      rounded.isNegative = value.isNegative → rounded.amount = single.amount nearest → Rounds value rounded

structure Approximates (value : Double) (number : Int) : Prop where
  sign : value.isNegative = decide (number < 0)
  near : double.Nearest number.natAbs (double.magnitude value.pattern)

theorem approximates_ofInt {number : Int} (made : ofInt number = some value) : value.Approximates number := by
  simp only [ofInt] at made
  split_ifs at made with large
  cases made
  have finite := Nat.lt_of_not_le large
  have pattern := pattern_ofPattern (withSign_lt (number < 0) (finite.trans infinity_lt))
  refine ⟨?_,?_⟩
  · rw [isNegative,pattern,negative_withSign _ (finite.trans infinity_lt)]
  · rw [pattern,magnitude_withSign _ (finite.trans infinity_lt)]
    have near := round_nearest (by decide) finite
    rwa [zpow_zero,mul_one] at near

theorem widen_narrow_infinite (infinite : value.isInfinite) (narrow : value.narrow = some bits) :
    bits < capacity 4 ∧ widen bits = value := by
  have number : ¬ value.isNan := by
    simp only [isInfinite,FloatFormat.isInfinite,beq_iff_eq] at infinite
    simp [Double.isNan,FloatFormat.isNan,infinite]
  obtain ⟨own,small,narrow',same⟩ := widen_narrow (.inr (.inl infinite))
  cases narrow.symm.trans narrow'
  refine ⟨small,?_⟩
  rw [unified,unified,if_neg number] at same
  split_ifs at same with nothing
  · rw [← same] at number
    exact absurd number (by decide)
  · exact same

theorem rounds_narrow (narrow : value.narrow = some bits) : bits < capacity 4 ∧ value.Rounds (widen bits) := by
  by_cases nothing : value.isNan
  · obtain ⟨own,small,narrow',isNan⟩ := narrow_of_isNan nothing
    cases narrow.symm.trans narrow'
    exact ⟨small,.nothing nothing ((isNan_widen bits).trans isNan)⟩
  by_cases infinite : value.isInfinite
  · obtain ⟨small,same⟩ := widen_narrow_infinite infinite narrow
    rw [same]
    exact ⟨small,.infinite infinite⟩
  have small : double.magnitude value.pattern < double.infinity := by
    simp only [Double.isNan,FloatFormat.isNan,decide_eq_true_eq] at nothing
    simp only [isInfinite,FloatFormat.isInfinite,beq_iff_eq] at infinite
    omega
  unfold Double.isNan at nothing
  unfold isInfinite at infinite
  simp only [Double.narrow,if_neg nothing,if_neg infinite] at narrow
  split_ifs at narrow with large
  cases narrow
  have finite := Nat.lt_of_not_le large
  have flat := finite.trans infinity_lt
  obtain ⟨size,bound,shape,_,_,ofFinite⟩ := widen_pattern (single.withSign (double.negative value.pattern)
    (single.round (double.significand value.pattern) (double.exponent value.pattern)))
  rw [magnitude_withSign _ flat,← @amount_magnitude single,magnitude_withSign _ flat] at ofFinite
  rw [negative_withSign _ flat] at shape
  have pattern := pattern_ofPattern (withSign_lt (double.negative value.pattern) bound)
  refine ⟨withSign_lt _ flat,.finite small (round_nearest (by decide) finite) ?_ ?_⟩
  · rw [shape,isNegative,isNegative,pattern,negative_withSign _ bound]
  · rw [shape,amount,pattern,← amount_magnitude,magnitude_withSign _ bound]
    exact (ofFinite finite).2

end Double
end NativeBinding.Wire
