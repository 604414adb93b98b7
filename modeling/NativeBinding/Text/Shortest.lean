namespace NativeBinding.Text

def powerOfTen (count : Nat) : Nat := Nat.pow 10 count

structure Decimal where
  digits : Nat
  point : Int
deriving DecidableEq,Repr

-- A positive quotient of two natural numbers and the quotients up to which a
-- decimal still reads back as it, the ends themselves if closed.
structure Reading where
  value : Nat × Nat
  low : Nat × Nat
  high : Nat × Nat
  closed : Bool

namespace Reading

def less (a b : Nat × Nat) : Bool := a.1 * b.2 < b.1 * a.2

def accepts (reading : Reading) (candidate : Nat × Nat) : Bool :=
  if reading.closed then !less candidate reading.low && !less reading.high candidate
  else less reading.low candidate && less candidate reading.high

def units (count : Nat) (power : Int) : Nat × Nat :=
  if 0 ≤ power then (count * powerOfTen power.toNat,1) else (count,powerOfTen (-power).toNat)

def point (reading : Reading) : Int :=
  let (a,b) := reading.value
  if b ≤ a then (Nat.toDigits 10 (a / b)).length
  else
    let zeros := (List.range 400).find? (fun count => b ≤ a * powerOfTen (count + 1))
    Int.negOfNat (zeros.getD 400)

def onGrid (reading : Reading) (power : Int) : Option Nat :=
  let (a,b) := reading.value
  let below := if 0 ≤ power then a / (b * powerOfTen power.toNat) else a * powerOfTen (-power).toNat / b
  let lowFits := reading.accepts (units below power)
  let highFits := reading.accepts (units (below + 1) power)
  let (c,d) := units (2 * below + 1) power
  let closerBelow := less (2 * a,b) (c,d)
  let atMiddle := 2 * a * d == c * b
  if lowFits && highFits then
    some (if closerBelow || atMiddle && below % 2 == 0 then below else below + 1)
  else if lowFits then some below
  else if highFits then some (below + 1)
  else none

def shortest (reading : Reading) : Decimal :=
  let point := reading.point
  let found := (List.range 17).findSome? (fun count =>
    (reading.onGrid (point - (count + 1 : Nat))).map (fun digits => (digits,count + 1)))
  match found with
  | none => ⟨0,point⟩
  | some (digits,count) =>
    ⟨digits,point + ((Nat.toDigits 10 digits).length - count : Int)⟩

end Reading

-- Positional from four zeros behind the point up to sixteen digits before it,
-- and with an exponent of at least two digits otherwise.
def Decimal.text (decimal : Decimal) : String :=
  let digits := Nat.toDigits 10 decimal.digits
  let trimmed := (digits.reverse.dropWhile (fun c => c == '0')).reverse
  let exponent := decimal.point - 1
  if exponent < -4 || 16 ≤ exponent then
    let mantissa := trimmed.take 1 ++ (if trimmed.length ≤ 1 then [] else '.' :: trimmed.drop 1)
    let size := Nat.toDigits 10 exponent.natAbs
    let padded := if size.length < 2 then '0' :: size else size
    String.ofList (mantissa ++ ['e',if exponent < 0 then '-' else '+'] ++ padded)
  else if decimal.point ≤ 0 then
    String.ofList ('0' :: '.' :: List.replicate (-decimal.point).toNat '0' ++ trimmed)
  else
    let count := decimal.point.toNat
    let whole := trimmed.take count ++ List.replicate (count - trimmed.length) '0'
    let fraction := trimmed.drop count
    String.ofList (whole ++ '.' :: (if fraction.isEmpty then ['0'] else fraction))

end NativeBinding.Text
