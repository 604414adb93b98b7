import NativeBinding.Fault
import NativeBinding.Text.Utf8
import NativeBinding.Value
import NativeBinding.Wire.Word

namespace NativeBinding.Wire

-- The state of a reader is what it has not read yet. A failing operation does
-- not move past the item it failed on.
abbrev Read (α : Type) := EStateM Fault (List UInt8) α

namespace Read

-- What a reader finds when it is made. A length is taken for a signed number of 32 bits,
-- and minus one for the place of the first zero.
def unread (memory : List UInt8) (length : Int) : Except Fault (List UInt8) :=
  let count := length.bmod 0x100000000
  if count = -1 then .ok (memory.takeWhile (fun byte => byte != 0))
  else if count < 0 then .error .negativeSize
  else .ok (memory.take count.toNat)

def fail (cause : Disagreement) : Read α := throw (.disagreement cause)

def take (width : Nat) : Read (List UInt8) := do
  let rest ← get
  if rest.length < width then fail .endedEarly
  else do
    set (rest.drop width)
    return rest.take width

def word (width : Nat) : Read Nat := do
  let bytes ← take width
  return wordValue bytes

def truth : Read Bool := do
  let byte ← word 1
  return byte != 0

-- A presence byte is zero or one; another one is read and refused.
def presence : Read Bool := do
  let flag ← word 1
  if flag = 0 then return false
  else if flag = 1 then return true
  else fail (.invalidPresence flag)

def i32 : Read Int := do
  let value ← word 4
  return signedValue 4 value

def single : Read Double := do
  let bits ← word 4
  return Double.widen bits

def double : Read Double := do
  let bits ← word 8
  return Double.ofPattern bits

def bytes : Read (List UInt8) := do
  let size ← word 4
  take size

def text : Read String := do
  let encoded ← bytes
  match Text.Utf8.decode encoded with
  | none => throw .invalidText
  | some text => return text

def remaining : Read (List UInt8) := do
  let rest ← get
  set ([] : List UInt8)
  return rest

def finish : Read Unit := do
  let rest ← get
  if !rest.isEmpty then fail (.junk rest.length)

end Read
end NativeBinding.Wire
