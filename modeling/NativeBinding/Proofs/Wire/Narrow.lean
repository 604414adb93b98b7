import NativeBinding.Proofs.Wire.Exact

namespace NativeBinding.Wire
open FloatFormat

namespace FloatFormat
variable {format : FloatFormat}

theorem magnitude_withSign {size : Nat} (negative : Bool) (small : size < format.signBit) :
    format.magnitude (format.withSign negative size) = size := by
  cases negative with
  | false => exact Nat.mod_eq_of_lt small
  | true => simp only [withSign,magnitude,if_true,Nat.add_mod_left,Nat.mod_eq_of_lt small]

theorem negative_withSign {size : Nat} (negative : Bool) (small : size < format.signBit) :
    format.negative (format.withSign negative size) = negative := by
  cases negative with
  | false => simpa [withSign,FloatFormat.negative] using small
  | true => simp [withSign,FloatFormat.negative]

theorem withSign_parts {bits : Nat} (small : bits < 2 * format.signBit) :
    format.withSign (format.negative bits) (format.magnitude bits) = bits := by
  by_cases high : format.signBit ≤ bits
  · have rest : bits % format.signBit = bits - format.signBit := by
      rw [Nat.mod_eq_sub_mod high,Nat.mod_eq_of_lt (by omega)]
    simp only [withSign,FloatFormat.negative,high,decide_true,if_true,magnitude,rest]
    omega
  · simp only [withSign,FloatFormat.negative,high,decide_false,magnitude]
    exact Nat.mod_eq_of_lt (by omega)

theorem withSign_lt {size : Nat} (negative : Bool) (small : size < format.signBit) :
    format.withSign negative size < 2 * format.signBit := by
  cases negative <;> simp only [withSign] <;> simp <;> omega

end FloatFormat

theorem single_signBit : single.signBit = 2147483648 := by decide
theorem double_signBit : double.signBit = 9223372036854775808 := by decide
theorem single_infinity : single.infinity = 2139095040 := by decide
theorem double_infinity : double.infinity = 9218868437227405312 := by decide
theorem single_unit : powerOfTwo single.fractionBits = 8388608 := by decide
theorem double_unit : powerOfTwo double.fractionBits = 4503599627370496 := by decide
theorem single_least : single.leastExponent = -149 := by decide
theorem double_least : double.leastExponent = -1074 := by decide
theorem single_quiet : single.quietBit = 4194304 := by decide
theorem double_quiet : double.quietBit = 2251799813685248 := by decide

theorem single_place {bits : Nat} (finite : single.magnitude bits < single.infinity) :
    single.significand bits < 16777216 ∧ -149 ≤ single.exponent bits ∧ single.exponent bits ≤ 104 := by
  obtain ⟨step,place,shape,unit⟩ := place_exists single bits
  have small := place.small
  rw [single_unit] at small
  rw [shape,placed,single_unit,single_infinity] at finite
  rw [unit,single_least]
  refine ⟨by omega,by omega,?_⟩
  rcases place.full with rfl | full
  · simp
  · rw [single_unit] at full; omega

namespace Double

theorem pattern_lt (value : Double) : value.pattern < 2 * double.signBit := value.bits.toNat_lt

theorem pattern_ofPattern {pattern : Nat} (small : pattern < 2 * double.signBit) :
    (ofPattern pattern).pattern = pattern :=
  UInt64.toNat_ofNat_of_lt' small

theorem ofPattern_pattern (value : Double) : ofPattern value.pattern = value := by
  cases value; simp [ofPattern,pattern]

def amount (value : Double) : ℚ := double.amount value.pattern

-- The values that the narrow format has too: no-numbers, infinities and products of
-- at most 24 bits with a power of two in its range.
def IsSingle (value : Double) : Prop :=
  value.isNan ∨ value.isInfinite ∨
    ∃ (count : Nat) (power : Int), count < 16777216 ∧ -149 ≤ power ∧ power ≤ 104 ∧ value.amount = count * 2 ^ power

def unified (value : Double) : Double := if value.isNan then nan else value

theorem unified_of_isNan {a b : Double} (first : a.isNan) (second : b.isNan) : a.unified = b.unified := by
  simp [unified,first,second]

theorem widen_pattern (bits : Nat) : ∃ size < double.signBit,
    widen bits = ofPattern (double.withSign (single.negative bits) size) ∧
    (single.isNan bits → double.infinity < size) ∧
    (single.magnitude bits = single.infinity → size = double.infinity) ∧
    (single.magnitude bits < single.infinity → size < double.infinity ∧ double.amount size = single.amount bits) := by
  by_cases isNan : single.isNan bits
  · refine ⟨double.infinity + double.quietBit +
      single.magnitude bits % single.quietBit * powerOfTwo (double.fractionBits - single.fractionBits),?_,?_,?_,?_,?_⟩
    · have rest := Nat.mod_lt (single.magnitude bits) (show 0 < single.quietBit by decide)
      have unit : powerOfTwo (double.fractionBits - single.fractionBits) = 536870912 := by decide
      rw [double_signBit,double_infinity,double_quiet,unit]
      rw [single_quiet] at rest ⊢
      omega
    · simp only [widen,if_pos isNan]
    · intro _; rw [double_infinity,double_quiet]; omega
    · intro same; simp [FloatFormat.isNan,same] at isNan
    · intro finite; simp [FloatFormat.isNan] at isNan; omega
  by_cases infinite : single.magnitude bits = single.infinity
  · refine ⟨double.infinity,by decide,?_,fun h => absurd h isNan,fun _ => rfl,fun finite => by omega⟩
    simp [widen,isNan,FloatFormat.isInfinite,infinite]
  have finite : single.magnitude bits < single.infinity := by
    simp [FloatFormat.isNan] at isNan; omega
  obtain ⟨small,low,high⟩ := single_place finite
  obtain ⟨step,count,place,below,same⟩ := place_of_count double
    (show single.significand bits < _ by rw [double_unit]; omega)
    (show _ ≤ single.exponent bits by rw [double_least]; omega)
  have rounded := round_placed place same
  have bound : double.placed step count < double.infinity := by
    have := place.small
    rw [double_least] at below
    rw [double_unit] at this
    rw [placed,double_unit,double_infinity]
    omega
  refine ⟨double.placed step count,bound.trans (by decide),?_,fun h => absurd h isNan,
    fun h => absurd h infinite,fun _ => ⟨bound,?_⟩⟩
  · simp [widen,isNan,FloatFormat.isInfinite,infinite,rounded]
  · rw [amount_placed place (bound.trans (by decide)),← same,FloatFormat.amount]

theorem narrow_of_amount {value : Double} {bits : Nat} (small : bits < 2 * single.signBit)
    (finite : double.magnitude value.pattern < double.infinity) (narrow : single.magnitude bits < single.infinity)
    (sign : single.negative bits = double.negative value.pattern) (same : value.amount = single.amount bits) :
    value.narrow = some bits := by
  obtain ⟨step,place,shape,unit⟩ := place_exists single bits
  have rounded : single.round (double.significand value.pattern) (double.exponent value.pattern) =
      single.magnitude bits := by
    rw [shape]
    refine round_placed place ?_
    rw [← unit]
    exact same
  have notNan : ¬ double.isNan value.pattern := by simp [FloatFormat.isNan]; omega
  have notInfinite : ¬ double.isInfinite value.pattern := by simp [FloatFormat.isInfinite]; omega
  simp only [Double.narrow,if_neg notNan,if_neg notInfinite,rounded,if_neg (Nat.not_le.mpr narrow),← sign,
    withSign_parts small]

theorem isNan_widen (bits : Nat) : (widen bits).isNan = single.isNan bits := by
  obtain ⟨size,small,shape,ofNan,ofInfinity,ofFinite⟩ := widen_pattern bits
  have pattern := pattern_ofPattern (withSign_lt (single.negative bits) small)
  simp only [Double.isNan,FloatFormat.isNan,shape,pattern,magnitude_withSign _ small]
  rcases Nat.lt_trichotomy (single.magnitude bits) single.infinity with h | h | h
  · have := (ofFinite h).1; simp; omega
  · have := ofInfinity h; simp; omega
  · have := ofNan (by simpa [FloatFormat.isNan] using h); simp; omega

theorem isSingle_widen (bits : Nat) : (widen bits).IsSingle := by
  obtain ⟨size,small,shape,ofNan,ofInfinity,ofFinite⟩ := widen_pattern bits
  have pattern := pattern_ofPattern (withSign_lt (single.negative bits) small)
  rcases Nat.lt_trichotomy (single.magnitude bits) single.infinity with h | h | h
  · obtain ⟨count,low,high⟩ := single_place h
    refine .inr (.inr ⟨single.significand bits,single.exponent bits,count,low,high,?_⟩)
    rw [Double.amount,shape,pattern,← amount_magnitude,magnitude_withSign _ small,(ofFinite h).2]
    rfl
  · refine .inr (.inl ?_)
    rw [Double.isInfinite,FloatFormat.isInfinite,shape,pattern,magnitude_withSign _ small,ofInfinity h]
    exact beq_self_eq_true _
  · refine .inl ?_
    rw [isNan_widen]
    simpa [FloatFormat.isNan] using h

theorem narrow_widen {bits : Nat} (small : bits < capacity 4) (number : single.isNan bits = false) :
    (widen bits).narrow = some bits := by
  have small' : bits < 2 * single.signBit := small
  obtain ⟨size,bound,shape,_,ofInfinity,ofFinite⟩ := widen_pattern bits
  have pattern := pattern_ofPattern (withSign_lt (single.negative bits) bound)
  have magnitude : double.magnitude (widen bits).pattern = size := by
    rw [shape,pattern,magnitude_withSign _ bound]
  have sign : double.negative (widen bits).pattern = single.negative bits := by
    rw [shape,pattern,negative_withSign _ bound]
  rcases Nat.lt_or_ge (single.magnitude bits) single.infinity with h | h
  · refine narrow_of_amount small' (by rw [magnitude]; exact (ofFinite h).1) h sign.symm ?_
    rw [Double.amount,← amount_magnitude,magnitude,(ofFinite h).2]
  · have infinite : single.magnitude bits = single.infinity := by
      simp [FloatFormat.isNan] at number; omega
    have top := ofInfinity infinite
    simp only [Double.narrow,FloatFormat.isNan,FloatFormat.isInfinite,magnitude,sign,top,lt_irrefl,decide_false,
      beq_self_eq_true,if_true]
    rw [← infinite,withSign_parts small']
    rfl

theorem narrow_of_isNan {value : Double} (isNan : value.isNan) :
    ∃ bits < capacity 4, value.narrow = some bits ∧ single.isNan bits := by
  simp only [Double.isNan] at isNan
  simp only [Double.narrow,if_pos isNan]
  have quiet : ∀ payload, single.infinity + single.quietBit + payload % single.quietBit < single.signBit := by
    intro payload
    have rest := Nat.mod_lt payload (show 0 < single.quietBit by decide)
    rw [single_signBit,single_infinity]
    rw [single_quiet] at rest ⊢
    omega
  refine ⟨_,?_,rfl,?_⟩
  · exact withSign_lt _ (quiet _)
  · simp only [FloatFormat.isNan,magnitude_withSign _ (quiet _)]
    rw [single_infinity,single_quiet]
    simp; omega

theorem widen_narrow {value : Double} (fits : value.IsSingle) :
    ∃ bits < capacity 4, value.narrow = some bits ∧ (widen bits).unified = value.unified := by
  by_cases isNan : value.isNan
  · obtain ⟨bits,small,narrow,nan⟩ := narrow_of_isNan isNan
    exact ⟨bits,small,narrow,unified_of_isNan ((isNan_widen bits).trans nan) isNan⟩
  suffices ∃ bits < capacity 4, value.narrow = some bits ∧ widen bits = value by
    obtain ⟨bits,small,narrow,same⟩ := this
    exact ⟨bits,small,narrow,by rw [same]⟩
  by_cases infinite : double.magnitude value.pattern = double.infinity
  · refine ⟨single.withSign (double.negative value.pattern) single.infinity,withSign_lt _ (by decide),?_,?_⟩
    · simp [Double.narrow,FloatFormat.isNan,FloatFormat.isInfinite,infinite]
    · have flat : single.infinity < single.signBit := by decide
      rw [widen]
      simp only [FloatFormat.isNan,FloatFormat.isInfinite,magnitude_withSign _ flat,negative_withSign _ flat,lt_irrefl,
        decide_false,beq_self_eq_true,if_true,← infinite,withSign_parts value.pattern_lt,ofPattern_pattern]
      rfl
  have finite : double.magnitude value.pattern < double.infinity := by
    simp [Double.isNan,FloatFormat.isNan] at isNan; omega
  obtain ⟨count,power,few,low,high,same⟩ := (fits.resolve_left isNan).resolve_left
    (by simpa [Double.isInfinite,FloatFormat.isInfinite] using infinite)
  obtain ⟨step,count',place,below,equal⟩ := place_of_count single
    (show count < _ by rw [single_unit]; omega) (show _ ≤ power by rw [single_least]; exact low)
  have bound : single.placed step count' < single.infinity := by
    have := place.small
    rw [single_unit] at this
    rw [single_least] at below
    rw [placed,single_unit,single_infinity]
    omega
  have flat := bound.trans (show single.infinity < single.signBit by decide)
  have magnitude := magnitude_withSign (double.negative value.pattern) flat
  have amounts : value.amount = single.amount (single.withSign (double.negative value.pattern) (single.placed step count')) := by
    rw [← @amount_magnitude single,magnitude,amount_placed place flat,← equal,same]
  refine ⟨_,withSign_lt (double.negative value.pattern) flat,narrow_of_amount (withSign_lt _ flat) finite
    (by rw [magnitude]; exact bound) (negative_withSign _ flat) amounts,?_⟩
  have number : ¬ single.isNan (single.withSign (double.negative value.pattern) (single.placed step count')) := by
    simp [FloatFormat.isNan,magnitude]; omega
  have numeric : ¬ single.isInfinite (single.withSign (double.negative value.pattern) (single.placed step count')) := by
    simp [FloatFormat.isInfinite,magnitude]; omega
  obtain ⟨own,ownPlace,shape,unit⟩ := place_exists double value.pattern
  have rounded : double.round (single.significand _) (single.exponent _) = _ :=
    round_placed ownPlace (by rw [← unit]; exact amounts.symm)
  simp only [widen,if_neg number,if_neg numeric,negative_withSign _ flat,rounded,← shape,withSign_parts value.pattern_lt,
    ofPattern_pattern]

end Double
end NativeBinding.Wire
