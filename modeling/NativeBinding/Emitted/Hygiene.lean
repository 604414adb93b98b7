import NativeBinding.Emitted.Names
import NativeBinding.Emitted.Wrapper
import NativeBinding.Interface.Spelling

namespace NativeBinding

def isPlainName (name : String) : Bool :=
  Text.isBindable name && Text.normal name == name && !Text.startsWith "__" name

def reservedNames : List String := importedNames ++ supportNames ++ reliedNames ++ ["self","cls","buf"]

def isHelperName (name : String) : Bool :=
  Text.startsWith "_size_" name || Text.startsWith "_write_" name || Text.startsWith "_read_" name

def isFreeName (name : String) : Bool :=
  isPlainName name && !reservedNames.contains name && !isHelperName name

namespace Enumeration

def isFreeLabel (owner label : String) : Bool :=
  isPlainName label && !Text.isSunder label && !Text.isPrivateOf owner label &&
    !(["_from_ordinal","classmethod","mro"].contains label)

def isHygienic (enumeration : Enumeration) : Bool :=
  enumeration.values.all (isFreeLabel enumeration.name) && Model.distinct enumeration.values

end Enumeration

namespace Record

def isHygienic (record : Record) : Bool :=
  record.fields.all (fun field =>
    isPlainName field.name && !(["_size","_write","_read","mro"].contains field.name)) &&
  Model.distinct (record.fields.map Field.name)

end Record

namespace Function

def outerNames (function : Function) : List String :=
  let of (expr : Supported Expr) : List String := match expr with
    | .ok expr => expr.names
    | .error _ => []
  ["_lib","_PendingBuffers"] ++
  function.arguments.flatMap (fun field => of (field.type.lower (.number 0))) ++
  function.returns.toList.flatMap (fun type => of (type.lift (.number 0)))

def isHygienic (model : Model) (function : Function) : Bool :=
  match model.wrapper function with
  | .error _ => false
  | .ok wrapper =>
    let inner := wrapper.parameters ++ wrapper.assigned
    wrapper.parameters.all isPlainName && Model.distinct inner &&
      inner.all (fun name => !function.outerNames.contains name)

end Function

namespace TypeRef

def isClosed (model : Model) : TypeRef → Bool
  | .plain .. => true
  | .named .enumeration name _ => (model.enumeration? name).isSome
  | .named .record name _ => (model.record? name).isSome
  | .named .object .. => false
  | .optional inner _ => inner.isClosed model

end TypeRef

namespace Model

def definedNames (model : Model) : List String :=
  model.enumerations.map Enumeration.name ++ model.records.map Record.name ++
    model.functions.map Function.name

def typeRefs (model : Model) : List TypeRef :=
  model.records.flatMap (fun record => record.fields.map Field.type) ++
  model.functions.flatMap (fun function =>
    function.arguments.map Field.type ++ function.returns.toList)

-- Every name of the model stands for what it was declared for, wherever the emitted
-- module uses it. What such a module does can be said without its names.
def isHygienic (model : Model) : Bool :=
  model.isReadable && Text.normal model.component == model.component &&
  model.definedNames.all isFreeName && distinct model.definedNames &&
  model.enumerations.all Enumeration.isHygienic && model.records.all Record.isHygienic &&
  model.functions.all (Function.isHygienic model) &&
  model.functions.all (fun function => !(["bytebuffer_alloc","bytebuffer_free"].contains function.name)) &&
  model.typeRefs.all (TypeRef.isClosed model)

end Model
end NativeBinding
