import NativeBinding.Emitted.Expr
import NativeBinding.Interface.Unsupported

namespace NativeBinding.TypeRef

-- The name fragment of a type's helpers. Names of definitions carry their kind
-- in front, so that no definition shares helpers with a plain type.
def ident : TypeRef → Supported String
  | .plain .boolean .. => .ok "bool"
  | .plain .u32 .. => .ok "u32"
  | .plain .u64 .. => .ok "u64"
  | .plain .float .. => .ok "float"
  | .plain .double .. => .ok "double"
  | .plain .string .. => .ok "string"
  | .plain .bytes .. => .ok "bytes"
  | .named .enumeration name _ => .ok ("enum_" ++ name)
  | .named .record name _ => .ok ("record_" ++ name)
  | .named .object name aside => refuse (.named .object name aside)
  | .optional inner _ => do
    let rest ← inner.ident
    return "optional_" ++ rest

def payload (value : Expr) (inner : TypeRef) : Expr :=
  if inner.isOptional then .member value "value" else value

def sizing (value : Expr) : TypeRef → Supported Expr
  | .plain .boolean .. => .ok (.number 1)
  | .plain .u32 .. => .ok (.number 4)
  | .plain .u64 .. => .ok (.number 8)
  | .plain .float .. => .ok (.number 4)
  | .plain .double .. => .ok (.number 8)
  | .plain .string .. => .ok (.apply "_size_string" [value])
  | .plain .bytes .. => .ok (.apply "_size_bytes" [value])
  | .named .enumeration .. => .ok (.number 4)
  | .named .record .. => .ok (.method value "_size" [])
  | .named .object name aside => refuse (.named .object name aside)
  | .optional inner label => do
    let rest ← (TypeRef.optional inner label).ident
    return .apply ("_size_" ++ rest) [value]

def writing (value buffer : Expr) : TypeRef → Supported Expr
  | .plain .boolean .. => .ok (.method buffer "write_bool" [value])
  | .plain .u32 .. => .ok (.method buffer "write_u32" [value])
  | .plain .u64 .. => .ok (.method buffer "write_u64" [value])
  | .plain .float .. => .ok (.method buffer "write_float" [value])
  | .plain .double .. => .ok (.method buffer "write_double" [value])
  | .plain .string .. => .ok (.method buffer "write_string" [value])
  | .plain .bytes .. => .ok (.method buffer "write_bytes" [value])
  | .named .enumeration .. => .ok (.method buffer "write_i32" [.member value "value"])
  | .named .record .. => .ok (.method value "_write" [buffer])
  | .named .object name aside => refuse (.named .object name aside)
  | .optional inner label => do
    let rest ← (TypeRef.optional inner label).ident
    return .apply ("_write_" ++ rest) [value,buffer]

def reading (buffer : Expr) : TypeRef → Supported Expr
  | .plain .boolean .. => .ok (.method buffer "read_bool" [])
  | .plain .u32 .. => .ok (.method buffer "read_u32" [])
  | .plain .u64 .. => .ok (.method buffer "read_u64" [])
  | .plain .float .. => .ok (.method buffer "read_float" [])
  | .plain .double .. => .ok (.method buffer "read_double" [])
  | .plain .string .. => .ok (.method buffer "read_string" [])
  | .plain .bytes .. => .ok (.method buffer "read_bytes" [])
  | .named .enumeration name _ =>
    .ok (.method (.source name) "_from_ordinal" [.method buffer "read_i32" []])
  | .named .record name _ => .ok (.method (.source name) "_read" [buffer])
  | .named .object name aside => refuse (.named .object name aside)
  | .optional inner label => do
    let rest ← (TypeRef.optional inner label).ident
    return .apply ("_read_" ++ rest) [buffer]

-- Entry points exist for whole buffers only: other types are refused as they are.
def sizeEntry : TypeRef → Supported Expr
  | .plain .bytes .. => .ok (.source "_size_raw_bytes")
  | .named .record name _ => .ok (.member (.source name) "_size")
  | .optional inner label => do
    let rest ← (TypeRef.optional inner label).ident
    return .source ("_size_" ++ rest)
  | type => refuse type

def writeEntry : TypeRef → Supported Expr
  | .plain .bytes .. => .ok (.source "_write_raw_bytes")
  | .named .record name _ => .ok (.member (.source name) "_write")
  | .optional inner label => do
    let rest ← (TypeRef.optional inner label).ident
    return .source ("_write_" ++ rest)
  | type => refuse type

def readEntry : TypeRef → Supported Expr
  | .plain .bytes .. => .ok (.source "_read_raw_bytes")
  | .named .record name _ => .ok (.member (.source name) "_read")
  | .optional inner label => do
    let rest ← (TypeRef.optional inner label).ident
    return .source ("_read_" ++ rest)
  | type => refuse type

end NativeBinding.TypeRef
