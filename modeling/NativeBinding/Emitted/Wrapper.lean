import NativeBinding.Emitted.ForeignType
import NativeBinding.Emitted.HostType
import NativeBinding.Emitted.Passing
import NativeBinding.Interface.Model

namespace NativeBinding

-- One argument of a wrapper. A held argument is lowered into a buffer that is
-- released again if the call cannot be made.
structure WrapperArgument where
  name : String
  hostType : HostType
  lowered : Expr
  held : Bool

structure Wrapper where
  name : String
  symbol : String
  arguments : List WrapperArgument
  returns : Option HostType
  lifted : Option Expr

namespace Wrapper

def holds (wrapper : Wrapper) : Bool := wrapper.arguments.any (fun argument => argument.held)

def parameters (wrapper : Wrapper) : List String :=
  wrapper.arguments.map (fun argument => argument.name)

def localName (argument : WrapperArgument) : String := "_" ++ argument.name

def loweringExpr (argument : WrapperArgument) : Expr :=
  if argument.held then .method (.source "_pending") "hold" [argument.lowered] else argument.lowered

-- Without held arguments the lowered values stand in the call itself.
def callArguments (wrapper : Wrapper) : List Expr :=
  if wrapper.holds then wrapper.arguments.map (fun argument => .source (localName argument))
  else wrapper.arguments.map (fun argument => argument.lowered)

def callExpr (wrapper : Wrapper) : Expr :=
  .method (.apply "_lib" []) wrapper.symbol wrapper.callArguments

def callLine (wrapper : Wrapper) : String :=
  (if wrapper.lifted.isSome then "_retval = " else "") ++ wrapper.callExpr.text

def assigned (wrapper : Wrapper) : List String :=
  (if wrapper.holds then "_pending" :: wrapper.arguments.map localName else []) ++
    (if wrapper.lifted.isSome then ["_retval"] else [])

def reads (wrapper : Wrapper) : List String :=
  (if wrapper.holds then
      "_PendingBuffers" :: wrapper.arguments.flatMap (fun argument => (loweringExpr argument).names)
    else []) ++
  wrapper.callExpr.names ++
  (if wrapper.holds then ["_pending"] else []) ++
  (match wrapper.lifted with
    | none => []
    | some result => result.names)

def lines (wrapper : Wrapper) : List String :=
  let parameters := wrapper.arguments.map (fun argument => argument.name ++ ": " ++ argument.hostType.text)
  ["def " ++ wrapper.name ++ "(" ++ ", ".intercalate parameters ++ ") -> " ++
      HostType.resultText wrapper.returns ++ ":",
    "    \"\"\"Call " ++ wrapper.symbol ++ "\"\"\""] ++
  (if wrapper.holds then
    "    with _PendingBuffers() as _pending:" ::
      wrapper.arguments.map (fun argument =>
        "        " ++ localName argument ++ " = " ++ (loweringExpr argument).text) ++
      ["        " ++ wrapper.callLine,"        _pending.transfer()"]
  else ["    " ++ wrapper.callLine]) ++
  (match wrapper.lifted with
    | none => []
    | some result => ["    return " ++ result.text]) ++
  ["",""]

end Wrapper

namespace Function

def argumentItem (function : Function) (field : Field) : String :=
  "function '" ++ function.name ++ "' argument '" ++ field.name ++ "'"

def resultItem (function : Function) : String := "function '" ++ function.name ++ "' return type"

def argument (field : Field) : Supported WrapperArgument := do
  let hostType ← field.type.host
  let lowered ← field.type.lower (.source field.name)
  return ⟨field.name,hostType,lowered,field.type.isBuffer⟩

def result (returns : Option TypeRef) : Supported (Option HostType × Option Expr) := do
  let hostType ← TypeRef.hostResult returns
  match returns with
  | none => return (hostType,none)
  | some type =>
    let lifted ← type.lift (.source "_retval")
    return (hostType,some lifted)

end Function

namespace Model

def wrapper (model : Model) (function : Function) : Supported Wrapper := do
  let arguments ← function.arguments.mapM (fun field =>
    Supported.declaredBy (Function.argument field) (function.argumentItem field))
  let (returns,lifted) ← Supported.declaredBy (Function.result function.returns) function.resultItem
  return ⟨function.name,(model.foreignFunction function).symbol,arguments,returns,lifted⟩

end Model
end NativeBinding
