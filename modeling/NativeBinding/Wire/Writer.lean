import NativeBinding.Fault
import NativeBinding.Text.Utf8
import NativeBinding.Value
import NativeBinding.Wire.Word

namespace NativeBinding.Wire

-- A writer over a zeroed buffer: the bytes in front of its offset, and what a
-- refused number left behind the offset. All other bytes are still zero.
structure Writer where
  size : Nat
  filled : List UInt8
  residue : List UInt8
deriving DecidableEq,Repr

abbrev Write (α : Type) := EStateM Fault Writer α

namespace Writer

def ofSize (size : Nat) : Writer := ⟨size,[],[]⟩

def offset (writer : Writer) : Nat := writer.filled.length

def content (writer : Writer) : List UInt8 :=
  let known := writer.filled ++ writer.residue
  known ++ List.replicate (writer.size - known.length) 0

def append (writer : Writer) (bytes : List UInt8) : Writer :=
  ⟨writer.size,writer.filled ++ bytes,writer.residue.drop bytes.length⟩

def leave (writer : Writer) (bytes : List UInt8) : Writer :=
  ⟨writer.size,writer.filled,bytes ++ writer.residue.drop bytes.length⟩

end Writer

namespace Write

def fail (cause : Disagreement) : Write α := throw (.disagreement cause)

-- Room is asked for before the value is looked at.
def room (width : Nat) : Write Unit := do
  let writer ← get
  if writer.size < writer.offset + width then fail .overfull

def place (width : Nat) : Write Unit := do
  room width
  modify (fun writer => writer.leave (List.replicate width 0))

def packed (bytes : List UInt8) : Write Unit := modify (fun writer => writer.append bytes)

def truth (value : Value) : Write Unit := do
  room 1
  packed [if value.truthy then 1 else 0]

-- A natural number that needs more than the width is refused, but where
-- the number format checks its size late its low bytes are already written.
def unsigned (width : Nat) (late : Bool) (value : Value) : Write Unit := do
  place width
  match value.toInt? with
  | none => throw .unpackable
  | some number =>
    if number < 0 then throw .unpackable
    else if number.toNat < capacity width then packed (wordBytes width number.toNat)
    else do
      if late then modify (fun writer => writer.leave (wordBytes width number.toNat))
      throw .unpackable

def u32 (value : Value) : Write Unit := unsigned 4 false value

def u64 (value : Value) : Write Unit := unsigned 8 true value

def i32 (value : Value) : Write Unit := do
  place 4
  match value.toInt? with
  | none => throw .unpackable
  | some number =>
    if number < -0x80000000 || 0x80000000 ≤ number then throw .unpackable
    else packed (wordBytes 4 (signedWord 4 number))

def asDouble (value : Value) : Except Fault Double :=
  match value with
  | .float number => .ok number
  | value =>
    match value.toInt? with
    | none => .error .unpackable
    | some number =>
      match Double.ofInt number with
      | none => .error .unpackable
      | some double => .ok double

def beyondSingle : Value → Fault
  | .float _ => .outOfFloatRange
  | _ => .unpackable

def single (value : Value) : Write Unit := do
  place 4
  match asDouble value with
  | .error fault => throw fault
  | .ok double =>
    match double.narrow with
    | none => throw (beyondSingle value)
    | some pattern => packed (wordBytes 4 pattern)

def double (value : Value) : Write Unit := do
  place 8
  match asDouble value with
  | .error fault => throw fault
  | .ok double => packed (wordBytes 8 double.pattern)

end Write

inductive Payload
  | given (bytes : List UInt8)
  | zeros (count : Nat)

namespace Payload

def length : Payload → Nat
  | .given bytes => bytes.length
  | .zeros count => count

def bytes : Payload → List UInt8
  | .given bytes => bytes
  | .zeros count => List.replicate count 0

-- Integers outside the index range are refused before their sign is looked at,
-- and so are counts that leave no room for the object around the bytes.
def largestCount : Nat := 0x7FFFFFFFFFFFFFFF - 33

-- What one object is given at most depends on the machine. Zeros that a writer has room for
-- are far below it.
def beyondMemory : Nat := 0x800000000

def ofValue : Value → Except Fault Payload
  | .bytes bytes => .ok (.given bytes)
  | value =>
    match value.toInt? with
    | none => .error .wrongKind
    | some number =>
      if number < -0x8000000000000000 then .error .outOfIndexRange
      else if number < 0 then .error .negativeCount
      else if largestCount < number.toNat then .error .outOfIndexRange
      else if beyondMemory ≤ number.toNat then .error .noMemory
      else .ok (.zeros number.toNat)

end Payload

def textOf : Value → Except Fault String
  | .text value => .ok value
  | value => .error (if (value.part "encode").isSome then .wrongKind else .missingAttribute)

namespace Write

def payload (payload : Payload) : Write Unit := do
  room payload.length
  packed payload.bytes

-- The length is packed on its own: it stays if there is no room for the rest.
def counted (content : Payload) : Write Unit := do
  unsigned 4 false (.int content.length)
  payload content

def bytes (value : Value) : Write Unit := do
  match Payload.ofValue value with
  | .error fault => throw fault
  | .ok content => counted content

def raw (value : Value) : Write Unit := do
  match Payload.ofValue value with
  | .error fault => throw fault
  | .ok content => payload content

def text (value : Value) : Write Unit := do
  match textOf value with
  | .error fault => throw fault
  | .ok text => counted (.given (Text.Utf8.encode text))

def finish : Write Unit := do
  let writer ← get
  if writer.offset != writer.size then fail (.wrongFill writer.offset writer.size)

end Write
end NativeBinding.Wire
