import NativeBinding.Text.Quoted
import NativeBinding.Text.Shortest
import NativeBinding.Value

namespace NativeBinding
open Wire

namespace Wire.Double

-- The decimals that read back as a positive finite double lie between the
-- middles to its two neighbours. Below a power of two the step is half as wide.
def reading (value : Double) : Text.Reading :=
  let significand := FloatFormat.double.significand value.pattern
  let exponent := FloatFormat.double.exponent value.pattern
  let scaled (quarters : Nat) : Nat × Nat :=
    if 2 ≤ exponent then (quarters * powerOfTwo (exponent - 2).toNat,1) else (quarters,powerOfTwo (2 - exponent).toNat)
  let narrowBelow := significand == powerOfTwo 52 && FloatFormat.double.leastExponent < exponent
  ⟨scaled (4 * significand),scaled (4 * significand - if narrowBelow then 1 else 2),
    scaled (4 * significand + 2),significand % 2 == 0⟩

def text (value : Double) : String :=
  let sign := if FloatFormat.double.negative value.pattern then "-" else ""
  if value.isNan then "nan"
  else if FloatFormat.double.isInfinite value.pattern then sign ++ "inf"
  else if value.isZero then sign ++ "0.0"
  else sign ++ value.reading.shortest.text

end Wire.Double

namespace Value

def byteText (mark : Char) (byte : UInt8) : List Char :=
  let c := Char.ofNat byte.toNat
  if c == mark || c == '\\' then ['\\',c]
  else if c == '\n' then ['\\','n']
  else if c == '\r' then ['\\','r']
  else if c == '\t' then ['\\','t']
  else if 32 ≤ byte.toNat && byte.toNat < 127 then [c]
  else '\\' :: 'x' :: Text.hexDigits 2 byte.toNat

def bytesText (bytes : List UInt8) : String :=
  let mark := Text.quoteMark (bytes.map (fun byte => Char.ofNat byte.toNat))
  String.ofList ('b' :: mark :: bytes.flatMap (byteText mark) ++ [mark])

mutual
def inner : Value → String
  | .null => "None"
  | .bool value => if value then "True" else "False"
  | .int value => toString value
  | .float value => value.text
  | .text value => Text.quote value
  | .bytes value => bytesText value
  | .member roster label ordinal =>
    "<" ++ roster.name ++ "." ++ label ++ ": " ++ toString ordinal ++ ">"
  | .wrapped value => "Some(value=" ++ value.inner ++ ")"
  | .record name fields => name ++ "(" ++ ", ".intercalate (innerOf fields) ++ ")"
  | .thing => "<...>"

def innerOf : List (String × Value) → List String
  | [] => []
  | row :: rest => innerOfRow row :: innerOf rest

def innerOfRow : String × Value → String
  | (name,value) => name ++ "=" ++ value.inner
end

-- On its own a text is shown without quotes and a member by its number.
def shown : Value → String
  | .text value => value
  | .member _ _ ordinal => toString ordinal
  | value => value.inner

end Value
end NativeBinding
