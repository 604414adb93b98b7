import NativeBinding.Interface.TypeRef
import NativeBinding.Text.Quoted

namespace NativeBinding

def TypeRef.BuildError.message : TypeRef.BuildError → String
  | .unknownKind word => Text.quote word ++ " is not a valid TypeKind"
  | .missingName which => which.word ++ " type reference needs a name"
  | .missingInner => "Optional type reference needs an inner type"

structure Unsupported where
  type : TypeRef
  item : Option String
deriving DecidableEq,Repr

namespace Unsupported

def message (failure : Unsupported) : String :=
  match failure.item with
  | none => "unsupported type " ++ failure.type.text
  | some item =>
    if item.isEmpty then "unsupported type " ++ failure.type.text
    else "unsupported type " ++ failure.type.text ++ " referenced by " ++ item

def forItem (failure : Unsupported) (item : String) : Unsupported := { failure with item := some item }

-- The innermost declaration that claims a failure keeps it.
def declaredBy (failure : Unsupported) (item : String) : Unsupported :=
  match failure.item with
  | some _ => failure
  | none => failure.forItem item

end Unsupported

abbrev Supported (α : Type) := Except Unsupported α

def refuse (type : TypeRef) : Supported α := .error ⟨type,none⟩

def Supported.declaredBy (result : Supported α) (item : String) : Supported α :=
  result.mapError (fun failure => failure.declaredBy item)

end NativeBinding
