import NativeBinding.Emitted.Codec

namespace NativeBinding.TypeRef

def lower (value : Expr) : TypeRef → Supported Expr
  | .plain .u32 .. => .ok value
  | .plain .u64 .. => .ok value
  | .plain .float .. => .ok value
  | .plain .double .. => .ok value
  | .plain .boolean .. => .ok (.flag value)
  | .plain .string .. => .ok (.apply "_lower_string" [value])
  | .named .enumeration .. => .ok (.member value "value")
  | .named .object name aside => refuse (.named .object name aside)
  | type => do
    let size ← type.sizeEntry
    let write ← type.writeEntry
    return .apply "_lower_buffer" [value,size,write]

def lift (value : Expr) : TypeRef → Supported Expr
  | .plain .u32 .. => .ok value
  | .plain .u64 .. => .ok value
  | .plain .float .. => .ok value
  | .plain .double .. => .ok value
  | .plain .boolean .. => .ok (.nonzero value)
  | .plain .string .. => .ok (.apply "_lift_string" [value])
  | .named .enumeration name _ => .ok (.method (.source name) "_from_ordinal" [value])
  | .named .object name aside => refuse (.named .object name aside)
  | type => do
    let read ← type.readEntry
    return .apply "_lift_buffer" [value,read]

end NativeBinding.TypeRef
