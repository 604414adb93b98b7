import NativeBinding.Emitted.ForeignType
import NativeBinding.Interface.Model

namespace NativeBinding

structure Declaration where
  symbol : String
  arguments : List ForeignType
  result : Option ForeignType
deriving DecidableEq,Repr

def Declaration.lines (declaration : Declaration) : List String :=
  ["    lib." ++ declaration.symbol ++ ".argtypes = [" ++
      ", ".intercalate (declaration.arguments.map ForeignType.text) ++ "]",
    "    lib." ++ declaration.symbol ++ ".restype = " ++ ForeignType.resultText declaration.result]

namespace ForeignFunction

def argumentItem (entry : ForeignFunction) (field : Field) : String :=
  "foreign call '" ++ entry.symbol ++ "' argument '" ++ field.name ++ "'"

def resultItem (entry : ForeignFunction) : String := "foreign call '" ++ entry.symbol ++ "' return type"

def declaration (entry : ForeignFunction) : Supported Declaration := do
  let arguments ← entry.arguments.mapM (fun field =>
    Supported.declaredBy field.type.foreign (entry.argumentItem field))
  let result ← Supported.declaredBy (TypeRef.foreignResult entry.returns) entry.resultItem
  return ⟨entry.symbol,arguments,result⟩

end ForeignFunction

def Model.declarationLines (model : Model) : Supported (List String) := do
  let declarations ← model.foreignFunctions.mapM ForeignFunction.declaration
  return ["def _declare_ffi(lib):",
    "    \"\"\"Declare argument and return types of every native entry point\"\"\""] ++
    declarations.flatMap Declaration.lines ++ ["    return lib","",""]

end NativeBinding
