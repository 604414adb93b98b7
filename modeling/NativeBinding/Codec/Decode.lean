import NativeBinding.Codec.Size
import NativeBinding.Codec.Shown
import NativeBinding.Wire.Reader

namespace NativeBinding
open Wire

def Model.fromOrdinal (model : Model) (enumeration : String) (value : Value) : Except Fault Value :=
  match model.enumeration? enumeration with
  | none => .error .undefinedName
  | some found =>
    match value.ordinalKey?.bind found.roster.at? with
    | some member => .ok member
    | none => .error (.disagreement (.invalidOrdinal value.shown enumeration))

def Wire.Read.ofResult (result : Except Fault α) : Read α :=
  match result with
  | .ok value => pure value
  | .error fault => throw fault

namespace TypeRef

def readBy (ordinal : String → Value → Except Fault Value) (nested : String → Read Value) :
    TypeRef → Read Value
  | .plain .boolean .. => do return .bool (← Read.truth)
  | .plain .u32 .. => do return .int (← Read.word 4)
  | .plain .u64 .. => do return .int (← Read.word 8)
  | .plain .float .. => do return .float (← Read.single)
  | .plain .double .. => do return .float (← Read.double)
  | .plain .string .. => do return .text (← Read.text)
  | .plain .bytes .. => do return .bytes (← Read.bytes)
  | .named .enumeration name _ => do
    let number ← Read.i32
    Read.ofResult (ordinal name (.int number))
  | .named .record name _ => nested name
  | .named .object name aside => throw (.unsupported ⟨.named .object name aside,none⟩)
  | .optional inner _ => do
    let present ← Read.presence
    if present then do
      let value ← inner.readBy ordinal nested
      return if inner.isOptional then .wrapped value else value
    else return .null

end TypeRef

def readFields (read : TypeRef → Read Value) : List Field → Read (List (String × Value))
  | [] => pure []
  | field :: rest => do
    let value ← read field.type
    let others ← readFields read rest
    return (field.name,value) :: others

namespace Model

-- The count bounds how deep record reads are nested in each other.
def recordRead (model : Model) : Nat → String → Read Value
  | 0,_ => throw .endless
  | depth + 1,name =>
    match model.record? name with
    | none => throw .undefinedName
    | some record => do
      let fields ← readFields (TypeRef.readBy model.fromOrdinal (model.recordRead depth)) record.fields
      return .record name fields

-- Between two bytes that are read no record is entered twice, unless records
-- contain themselves outright.
def readDepth (model : Model) (available : Nat) : Nat := (available + 1) * (model.records.length + 1)

def decode (model : Model) (type : TypeRef) : Read Value := do
  let available ← get
  match type with
  | .plain .bytes .. => do return .bytes (← Read.remaining)
  | type => type.readBy model.fromOrdinal (model.recordRead (model.readDepth available.length))

end Model
end NativeBinding
