import NativeBinding.Codec.Size

namespace NativeBinding
open Wire

def Wire.Write.ofResult (result : Except Fault α) : Write α :=
  match result with
  | .ok value => pure value
  | .error fault => throw fault

namespace TypeRef

def writeBy (nested : Value → Write Unit) : TypeRef → Value → Write Unit
  | .plain .boolean ..,value => Write.truth value
  | .plain .u32 ..,value => Write.u32 value
  | .plain .u64 ..,value => Write.u64 value
  | .plain .float ..,value => Write.single value
  | .plain .double ..,value => Write.double value
  | .plain .string ..,value => Write.text value
  | .plain .bytes ..,value => Write.bytes value
  | .named .enumeration ..,value => do
    let ordinal ← Write.ofResult (value.partOf "value")
    Write.i32 ordinal
  | .named .record ..,value => nested value
  | .named .object name aside,_ => throw (.unsupported ⟨.named .object name aside,none⟩)
  | .optional inner _,value =>
    match value with
    | .null => Write.truth (.bool false)
    | value => do
      Write.truth (.bool true)
      let payload ← Write.ofResult (value.payload inner)
      inner.writeBy nested payload

end TypeRef

def Field.writeBy (nested : Value → Write Unit) (field : Field) (owner : Value) : Write Unit := do
  let value ← Write.ofResult (owner.partOf field.name)
  field.type.writeBy nested value

def writeFields (nested : Value → Write Unit) (owner : Value) : List Field → Write Unit
  | [] => pure ()
  | field :: rest => do
    field.writeBy nested owner
    writeFields nested owner rest

namespace Model

def recordWrite (model : Model) : Nat → Value → Write Unit
  | 0,.record .. => throw .endless
  | depth + 1,.record name fields =>
    match model.record? name with
    | none => throw .missingAttribute
    | some record => writeFields (model.recordWrite depth) (.record name fields) record.fields
  | _,_ => throw .missingAttribute

def encode (model : Model) (type : TypeRef) (value : Value) : Write Unit :=
  match type with
  | .plain .bytes .. => Write.raw value
  | .named .record name _ =>
    match model.record? name with
    | none => throw .undefinedName
    | some record => writeFields (model.recordWrite value.recordDepth) value record.fields
  | type => type.writeBy (model.recordWrite value.recordDepth) value

end Model
end NativeBinding
