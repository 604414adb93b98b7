import NativeBinding.Emitted.Names
import NativeBinding.Emitted.Source
import NativeBinding.Fault

namespace NativeBinding.Model

-- Optional types have entry points only where the module uses them.
def helperIdents (model : Model) : List String :=
  model.optionalTypes.filterMap (fun type => type.ident.toOption)

def helperNames (model : Model) : List String :=
  model.helperIdents.flatMap (fun ident => ["_size_" ++ ident,"_write_" ++ ident,"_read_" ++ ident])

def knows (model : Model) (name : String) : Bool :=
  model.enumerations.any (fun item => item.name == name) ||
  model.records.any (fun item => item.name == name) ||
  model.functions.any (fun item => item.name == name) ||
  model.helperNames.contains name || supportNames.contains name || importedNames.contains name ||
  builtinNames.contains name

-- The entry points of a type are looked up by name before they are used. What
-- else has the name of a record does not have them.
def resolve (model : Model) (type : TypeRef) : Except Fault Unit :=
  match type.readEntry with
  | .error cause => .error (.unsupported cause)
  | .ok _ =>
    match type with
    | .named .record name _ =>
      if (model.record? name).isSome then .ok ()
      else .error (if model.knows name then .missingAttribute else .undefinedName)
    | .optional inner label =>
      match (TypeRef.optional inner label).ident with
      | .error cause => .error (.unsupported cause)
      | .ok ident => if model.helperIdents.contains ident then .ok () else .error .undefinedName
    | _ => .ok ()

end NativeBinding.Model
