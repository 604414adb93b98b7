import NativeBinding.Interface.Unsupported

namespace NativeBinding

-- How a value is declared at the foreign boundary. Booleans travel as 8-bit
-- integers, since no native layout of a truth value is assumed.
inductive ForeignType
  | int8 | int32 | uint32 | uint64 | float | double | charPointer | byteBuffer
deriving DecidableEq,Repr

def ForeignType.text : ForeignType → String
  | .int8 => "ctypes.c_int8"
  | .int32 => "ctypes.c_int32"
  | .uint32 => "ctypes.c_uint32"
  | .uint64 => "ctypes.c_uint64"
  | .float => "ctypes.c_float"
  | .double => "ctypes.c_double"
  | .charPointer => "ctypes.c_char_p"
  | .byteBuffer => "_ByteBuffer"

namespace TypeRef

def isBuffer : TypeRef → Bool
  | .plain .bytes .. => true
  | .named .record .. => true
  | .optional .. => true
  | _ => false

-- The innermost unsupported type is to blame, not the layers around it.
def foreign : TypeRef → Supported ForeignType
  | .plain .boolean .. => .ok .int8
  | .plain .u32 .. => .ok .uint32
  | .plain .u64 .. => .ok .uint64
  | .plain .float .. => .ok .float
  | .plain .double .. => .ok .double
  | .plain .string .. => .ok .charPointer
  | .plain .bytes .. => .ok .byteBuffer
  | .named .enumeration .. => .ok .int32
  | .named .record .. => .ok .byteBuffer
  | .named .object name aside => refuse (.named .object name aside)
  | .optional inner _ => do
    let _ ← inner.foreign
    return .byteBuffer

def foreignResult : Option TypeRef → Supported (Option ForeignType)
  | none => .ok none
  | some type => type.foreign.map some

end TypeRef

def ForeignType.resultText : Option ForeignType → String
  | none => "None"
  | some type => type.text

end NativeBinding
