import NativeBinding.Emitted.Source
import NativeBinding.Script.Invoke
import NativeBinding.Script.Parse

namespace NativeBinding.Script

def firstNames : Names := [
  ("__name__",.text "bindings"),
  ("__doc__",.nothing),
  ("__package__",.nothing),
  ("__loader__",.nothing),
  ("__spec__",.nothing),
  ("__file__",.text "bindings.py"),
  ("__builtins__",.thing .dict)]

def moduleFrame : Frame := ⟨.module,Frame.globals,[],none,none,none⟩

def start (body : List Statement) : Run PUnit := do
  match Statement.purpose body with
  | some text => Frame.putAt Frame.globals "__doc__" (.text text)
  | none => pure ()
  let _ ← Statement.runAll caller moduleFrame body
  return ()

def Failure.kind : Failure → FaultKind
  | .attribute => .attribute
  | .frozen => .frozen
  | .key => .key
  | .lookup => .key
  | .index => .index
  | .type => .type
  | .value => .value
  | .unknown => .name
  | .unset => .unset
  | .endless => .recursion
  | .overflow => .overflow
  | .arithmetic => .overflow
  | .memory => .memory
  | .system => .system
  | .decoding => .decoding
  | .encoding => .encoding
  | .packing => .packing
  | .argument => .argument
  | .grammar => .grammar
  | .base => .runtime
  | .failure => .runtime
  | .runtime => .runtime
  | .defect => .runtime

-- A failure as it is known outside. A class of failures of its own that a module has
-- is the one for disagreements.
def fault (raised : Obj) : Run Fault := do
  let cls ← raised.classOf
  if cls == .base (.failure .defect) then return .negativeSize
  let kind := match cls with
    | .made _ => FaultKind.disagreement
    | .base (.failure which) => which.kind
    | .base _ => .type
  let text ← Run.rescue (Obj.outer caller Obj.deepest raised) (fun _ => return "")
  return .raised kind text

def outcome (action : Run α) (world : World) : Except Fault α × World :=
  match action world with
  | .ok value after => (.ok value,after)
  | .error raised after =>
    match fault raised after with
    | .ok problem last => (.error problem,last)
    | .error _ last => (.error (.raised .type ""),last)

def World.fresh (component : Component) (session : Session) : World :=
  ⟨session,component,#[.names firstNames],0,.null,false⟩

-- A text is loaded as a whole or not at all.
def loadText (text : String) (world : World) : Except Fault World :=
  if text.toList.contains '\x00' then .error (.raised .value "source code string cannot contain null bytes")
  else match Parse.script text with
    | none => .error (.raised .grammar "invalid syntax")
    | some body =>
      if Statement.areSound body then
        let (result,after) := outcome (start (Statement.allSettled body)) world
        match result with
        | .ok _ => .ok after
        | .error problem => .error problem
      else .error (.raised .grammar "invalid syntax")

end NativeBinding.Script

namespace NativeBinding

def Model.foreignComponent (model : Model) : Script.Component :=
  ⟨model.foreignFunctions.map ForeignFunction.symbol,model.allocSymbol,model.freeSymbol⟩

def Model.loaded (model : Model) (session : Session) : Except Fault Script.World :=
  match (model.generate (Config.defaults model.component)).result with
  | .error (.escaped refused) => .error (.unsupported refused)
  | .error (.items (refused :: _)) => .error (.unsupported refused)
  | .error (.items []) => .error (.raised .grammar "invalid syntax")
  | .ok text => Script.loadText text (Script.World.fresh model.foreignComponent session)

end NativeBinding
