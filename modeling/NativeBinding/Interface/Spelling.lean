import NativeBinding.Interface.Model
import NativeBinding.Text.Name

namespace NativeBinding

def TypeRef.mentioned : TypeRef → List String
  | .plain .. => []
  | .named _ name _ => [name]
  | .optional inner _ => inner.mentioned

namespace Model

def distinct (names : List String) : Bool :=
  match names with
  | [] => true
  | name :: rest => !rest.contains name && distinct rest

def typeReadable (type : TypeRef) : Bool := type.mentioned.all Text.isReadable

def fieldsReadable (fields : List Field) : Bool :=
  fields.all (fun field => Text.isBindable field.name && typeReadable field.type) &&
    distinct (fields.map (fun field => Text.normal field.name))

-- Whether the emitted text is one that can be read: every name stands where it can,
-- and none is given twice in one list of arguments. Names of objects stand in
-- comments only.
def isReadable (model : Model) : Bool :=
  Text.isIdentifier model.allocSymbol.toList &&
  model.enumerations.all (fun item => Text.isBindable item.name && item.values.all Text.isBindable) &&
  model.records.all (fun item => Text.isBindable item.name && fieldsReadable item.fields) &&
  model.functions.all (fun item => Text.isBindable item.name && fieldsReadable item.arguments &&
    item.returns.toList.all typeReadable) &&
  model.objects.all (fun object => object.toList.all (fun c => c != '\n' && c != '\r'))

end Model
end NativeBinding
