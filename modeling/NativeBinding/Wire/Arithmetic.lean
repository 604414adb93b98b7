import NativeBinding.Wire.Binary

namespace NativeBinding.Wire

structure Scaled where
  value : Int
  exponent : Int
deriving DecidableEq,Repr

namespace Scaled

def units (number : Scaled) (exponent : Int) : Int :=
  number.value * (powerOfTwo (number.exponent - exponent).toNat : Nat)

def plus (a b : Scaled) : Scaled :=
  let exponent := min a.exponent b.exponent
  ⟨a.units exponent + b.units exponent,exponent⟩

def times (a b : Scaled) : Scaled := ⟨a.value * b.value,a.exponent + b.exponent⟩

def order (a b : Scaled) : Ordering :=
  let exponent := min a.exponent b.exponent
  compare (a.units exponent) (b.units exponent)

def toDouble (number : Scaled) (negativeZero : Bool) : Double :=
  let format := FloatFormat.double
  let magnitude := min format.infinity (format.round number.value.natAbs number.exponent)
  Double.ofPattern (format.withSign (if number.value = 0 then negativeZero else number.value < 0) magnitude)

end Scaled

namespace Double
open FloatFormat

def isNegative (value : Double) : Bool := double.negative value.pattern

def isInfinite (value : Double) : Bool := double.isInfinite value.pattern

def nan : Double := ofPattern (double.infinity + double.quietBit)

def infinite (negative : Bool) : Double := ofPattern (double.withSign negative double.infinity)

def scaled (value : Double) : Scaled :=
  let size := double.significand value.pattern
  ⟨if value.isNegative then -(size : Int) else size,double.exponent value.pattern⟩

def opposite (value : Double) : Double :=
  ofPattern (if value.isNegative then value.pattern - double.signBit else value.pattern + double.signBit)

def plus (a b : Double) : Double :=
  if a.isNan then a
  else if b.isNan then b
  else if a.isInfinite then (if b.isInfinite && a.isNegative != b.isNegative then nan else a)
  else if b.isInfinite then b
  else (a.scaled.plus b.scaled).toDouble (a.isNegative && b.isNegative)

def times (a b : Double) : Double :=
  let negative := a.isNegative != b.isNegative
  if a.isNan then a
  else if b.isNan then b
  else if a.isInfinite || b.isInfinite then (if a.isZero || b.isZero then nan else infinite negative)
  else (a.scaled.times b.scaled).toDouble negative

-- How a double compares with what a finite one or an integer stands for. No-numbers
-- compare with nothing.
def orderTo? (a : Double) (b : Scaled) : Option Ordering :=
  if a.isNan then none
  else if a.isInfinite then some (if a.isNegative then .lt else .gt)
  else some (a.scaled.order b)

def order? (a b : Double) : Option Ordering :=
  if b.isNan then none
  else if b.isInfinite then
    if a.isNan then none
    else if a.isInfinite && a.isNegative == b.isNegative then some .eq
    else some (if b.isNegative then .gt else .lt)
  else a.orderTo? b.scaled

end Double
end NativeBinding.Wire
