namespace NativeBinding.Wire

def powerOfTwo (count : Nat) : Nat := Nat.pow 2 count

structure FloatFormat where
  fractionBits : Nat
  exponentBits : Nat
deriving DecidableEq,Repr

namespace FloatFormat

def single : FloatFormat := ⟨23,8⟩
def double : FloatFormat := ⟨52,11⟩

def signBit (format : FloatFormat) : Nat := powerOfTwo (format.fractionBits + format.exponentBits)

def infinity (format : FloatFormat) : Nat := (powerOfTwo format.exponentBits - 1) * powerOfTwo format.fractionBits

def quietBit (format : FloatFormat) : Nat := powerOfTwo (format.fractionBits - 1)

def leastExponent (format : FloatFormat) : Int :=
  2 - (powerOfTwo (format.exponentBits - 1) : Nat) - format.fractionBits

def magnitude (format : FloatFormat) (bits : Nat) : Nat := bits % format.signBit

def negative (format : FloatFormat) (bits : Nat) : Bool := format.signBit ≤ bits

def isNan (format : FloatFormat) (bits : Nat) : Bool := format.infinity < format.magnitude bits

def isInfinite (format : FloatFormat) (bits : Nat) : Bool := format.magnitude bits == format.infinity

def significand (format : FloatFormat) (bits : Nat) : Nat :=
  let fraction := bits % powerOfTwo format.fractionBits
  if format.magnitude bits < powerOfTwo format.fractionBits then fraction else powerOfTwo format.fractionBits + fraction

def exponent (format : FloatFormat) (bits : Nat) : Int :=
  let field := format.magnitude bits / powerOfTwo format.fractionBits
  format.leastExponent + (Nat.max field 1 - 1 : Nat)

def halfEven (value divisor : Nat) : Nat :=
  let quotient := value / divisor
  let rest := value % divisor
  if 2 * rest < divisor then quotient
  else if divisor < 2 * rest then quotient + 1
  else if quotient % 2 = 0 then quotient
  else quotient + 1

-- The pattern nearest to a significand times a power of two, ties to the even
-- one. A carry out of the fraction moves into the exponent by itself. What is
-- too large comes out at or beyond the pattern of infinity.
def round (format : FloatFormat) (value : Nat) (scale : Int) : Nat :=
  if value = 0 then 0
  else
    let unit := max format.leastExponent (scale + value.log2 - format.fractionBits)
    let steps :=
      if unit ≤ scale then value * powerOfTwo (scale - unit).toNat
      else halfEven value (powerOfTwo (unit - scale).toNat)
    (unit - format.leastExponent).toNat * powerOfTwo format.fractionBits + steps

def withSign (format : FloatFormat) (negative : Bool) (magnitude : Nat) : Nat :=
  if negative then format.signBit + magnitude else magnitude

end FloatFormat

-- A double is its bits. Different patterns of no-number are different doubles.
structure Double where
  bits : UInt64
deriving DecidableEq,Repr

namespace Double
open FloatFormat

def pattern (value : Double) : Nat := value.bits.toNat

def ofPattern (pattern : Nat) : Double := ⟨UInt64.ofNat pattern⟩

def isNan (value : Double) : Bool := double.isNan value.pattern

def isZero (value : Double) : Bool := double.magnitude value.pattern == 0

-- The pattern in the narrow format, or nothing if a finite value becomes too
-- large there. No-numbers keep the sign and what fits of their payload, and
-- turn quiet.
def narrow (value : Double) : Option Nat :=
  let magnitude := double.magnitude value.pattern
  let negative := double.negative value.pattern
  if double.isNan value.pattern then
    let payload := magnitude % powerOfTwo double.fractionBits / powerOfTwo (double.fractionBits - single.fractionBits)
    some (single.withSign negative (single.infinity + single.quietBit + payload % single.quietBit))
  else if double.isInfinite value.pattern then some (single.withSign negative single.infinity)
  else
    let rounded := single.round (double.significand value.pattern) (double.exponent value.pattern)
    if single.infinity ≤ rounded then none else some (single.withSign negative rounded)

def widen (bits : Nat) : Double :=
  let magnitude := single.magnitude bits
  let negative := single.negative bits
  if single.isNan bits then
    let payload := magnitude % single.quietBit * powerOfTwo (double.fractionBits - single.fractionBits)
    ofPattern (double.withSign negative (double.infinity + double.quietBit + payload))
  else if single.isInfinite bits then ofPattern (double.withSign negative double.infinity)
  else ofPattern (double.withSign negative (double.round (single.significand bits) (single.exponent bits)))

def ofInt (value : Int) : Option Double :=
  let rounded := double.round value.natAbs 0
  if double.infinity ≤ rounded then none
  else some (ofPattern (double.withSign (value < 0) rounded))

-- The double nearest to a count of units of a power of ten. A quotient is rounded from
-- more places than the format has, with one more that tells whether anything is left.
def ofDecimal (count : Nat) (power : Int) : Double :=
  let size := (Nat.toDigits 10 count).length
  let rounded :=
    if count = 0 || size + power < -400 then 0
    else if 400 < size + power then double.infinity
    else if 0 ≤ power then double.round (count * Nat.pow 10 power.toNat) 0
    else
      let divisor := Nat.pow 10 (-power).toNat
      let shift := 4 * (-power).toNat + 1200
      let scaled := count * powerOfTwo shift
      double.round (2 * (scaled / divisor) + (if scaled % divisor = 0 then 0 else 1)) (-(shift + 1 : Nat))
  ofPattern (Nat.min rounded double.infinity)

def toInt? (value : Double) : Option Int :=
  if double.infinity ≤ double.magnitude value.pattern then none
  else
    let significand := double.significand value.pattern
    let exponent := double.exponent value.pattern
    let size : Option Nat :=
      if 0 ≤ exponent then some (significand * powerOfTwo exponent.toNat)
      else
        let divisor := powerOfTwo (-exponent).toNat
        if significand % divisor = 0 then some (significand / divisor) else none
    size.map (fun size => if double.negative value.pattern then -(size : Int) else size)

end Double
end NativeBinding.Wire
