import NativeBinding.Emitted.Codec

namespace NativeBinding

structure OptionalHelpers where
  ident : String
  size : Expr
  write : Expr
  read : Expr

namespace OptionalHelpers

def defined (helpers : OptionalHelpers) : List String :=
  ["_size_" ++ helpers.ident,"_write_" ++ helpers.ident,"_read_" ++ helpers.ident]

def lines (helpers : OptionalHelpers) : List String := [
  "def _size_" ++ helpers.ident ++ "(value):",
  "    if value is None:",
  "        return 1",
  "    return 1 + " ++ helpers.size.text,
  "",
  "",
  "def _write_" ++ helpers.ident ++ "(value, buf):",
  "    if value is None:",
  "        buf.write_presence(False)",
  "        return",
  "    buf.write_presence(True)",
  "    " ++ helpers.write.text,
  "",
  "",
  "def _read_" ++ helpers.ident ++ "(buf):",
  "    if not buf.read_presence():",
  "        return None",
  "    return " ++ helpers.read.text,
  "",
  ""]

end OptionalHelpers

namespace TypeRef

-- A payload that is optional itself is read into its wrapper.
def wrapRead (inner : TypeRef) (read : Expr) : Expr :=
  if inner.isOptional then .apply "Some" [read] else read

def helpers : TypeRef → Supported (Option OptionalHelpers)
  | .optional inner label => do
    let ident ← (TypeRef.optional inner label).ident
    let read ← inner.reading (.source "buf")
    let size ← inner.sizing (payload (.source "value") inner)
    let write ← inner.writing (payload (.source "value") inner) (.source "buf")
    return some ⟨ident,size,write,wrapRead inner read⟩
  | _ => .ok none

def visitOptionals : TypeRef → List TypeRef → List TypeRef
  | .optional inner label,seen =>
    let below := inner.visitOptionals seen
    if below.contains (.optional inner label) then below else below ++ [.optional inner label]
  | _,seen => seen

-- Records are not entered: their fields are visited where they are declared.
def collectOptionals (types : List TypeRef) : List TypeRef :=
  types.foldl (fun seen type => type.visitOptionals seen) []

end TypeRef
end NativeBinding
