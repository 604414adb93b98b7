import NativeBinding.Interface.Unsupported

namespace NativeBinding

-- The annotation of a value on the public surface. A present value of an
-- optional of an optional is wrapped, so that it can be told from an absent one.
inductive HostType
  | bool | int | float | str | bytes
  | named (name : String)
  | optional (inner : HostType) (wrapped : Bool)
deriving DecidableEq,Repr

def HostType.text : HostType → String
  | .bool => "bool"
  | .int => "int"
  | .float => "float"
  | .str => "str"
  | .bytes => "bytes"
  | .named name => name
  | .optional inner true => "Optional[Some[" ++ inner.text ++ "]]"
  | .optional inner false => "Optional[" ++ inner.text ++ "]"

namespace TypeRef

def host : TypeRef → Supported HostType
  | .plain .boolean .. => .ok .bool
  | .plain .u32 .. => .ok .int
  | .plain .u64 .. => .ok .int
  | .plain .float .. => .ok .float
  | .plain .double .. => .ok .float
  | .plain .string .. => .ok .str
  | .plain .bytes .. => .ok .bytes
  | .named .enumeration name _ => .ok (.named name)
  | .named .record name _ => .ok (.named name)
  | .named .object name aside => refuse (.named .object name aside)
  | .optional inner _ => do
    let declared ← inner.host
    return .optional declared inner.isOptional

def hostResult : Option TypeRef → Supported (Option HostType)
  | none => .ok none
  | some type => type.host.map some

end TypeRef

def HostType.resultText : Option HostType → String
  | none => "None"
  | some type => type.text

end NativeBinding
