import NativeBinding.Emitted.Codec
import NativeBinding.Wire.Writer

namespace NativeBinding
open Wire

-- Length as the value itself counts it: a text in characters, not in bytes.
def Value.length : Value → Except Fault Nat
  | .text value => .ok value.length
  | .bytes value => .ok value.length
  | _ => .error .wrongKind

def Value.textSize (value : Value) : Except Fault Nat := do
  let text ← textOf value
  return 4 + (Text.Utf8.encode text).length

def Value.partOf (value : Value) (name : String) : Except Fault Value :=
  match value.part name with
  | none => .error .missingAttribute
  | some part => .ok part

-- The payload of a present optional is unwrapped where it is wrapped.
def Value.payload (value : Value) (inner : TypeRef) : Except Fault Value :=
  if inner.isOptional then value.partOf "value" else .ok value

namespace TypeRef

def fixedSize? : TypeRef → Option Nat
  | .plain .boolean .. => some 1
  | .plain .u32 .. => some 4
  | .plain .u64 .. => some 8
  | .plain .float .. => some 4
  | .plain .double .. => some 8
  | .named .enumeration .. => some 4
  | _ => none

def sizeBy (nested : Value → Except Fault Nat) : TypeRef → Value → Except Fault Nat
  | .plain .boolean ..,_ => .ok 1
  | .plain .u32 ..,_ => .ok 4
  | .plain .u64 ..,_ => .ok 8
  | .plain .float ..,_ => .ok 4
  | .plain .double ..,_ => .ok 8
  | .plain .string ..,value => value.textSize
  | .plain .bytes ..,value => do
    let length ← value.length
    return 4 + length
  | .named .enumeration ..,_ => .ok 4
  | .named .record ..,value => nested value
  | .named .object name aside,_ => .error (.unsupported ⟨.named .object name aside,none⟩)
  | .optional inner _,value =>
    match value with
    | .null => .ok 1
    | value => do
      let payload ← value.payload inner
      let size ← inner.sizeBy nested payload
      return 1 + size

end TypeRef

def Field.sizeBy (nested : Value → Except Fault Nat) (field : Field) (owner : Value) : Except Fault Nat :=
  match field.type.fixedSize? with
  | some size => .ok size
  | none => do
    let value ← owner.partOf field.name
    field.type.sizeBy nested value

def sizeFields (nested : Value → Except Fault Nat) (owner : Value) : List Field → Except Fault Nat
  | [] => .ok 0
  | field :: rest => do
    let size ← field.sizeBy nested owner
    let others ← sizeFields nested owner rest
    return size + others

namespace Model

-- A record inside a value is sized as what it is, not as what was declared.
-- The count bounds how deep records are nested.
def recordSize (model : Model) : Nat → Value → Except Fault Nat
  | 0,.record .. => .error .endless
  | depth + 1,.record name fields =>
    match model.record? name with
    | none => .error .missingAttribute
    | some record => sizeFields (model.recordSize depth) (.record name fields) record.fields
  | _,_ => .error .missingAttribute

-- Size of a whole buffer. A record at the top is sized as what was declared.
def encodedSize (model : Model) (type : TypeRef) (value : Value) : Except Fault Nat :=
  match type with
  | .plain .bytes .. => value.length
  | .named .record name _ =>
    match model.record? name with
    | none => .error .undefinedName
    | some record => sizeFields (model.recordSize value.recordDepth) value record.fields
  | type => type.sizeBy (model.recordSize value.recordDepth) value

end Model
end NativeBinding
