import NativeBinding.Script.Evaluate

namespace NativeBinding.Script

def deepestCall : Nat := 950

namespace FunctionInfo

def inOrder (info : FunctionInfo) (given : List Obj) : Run Names := do
  let places := info.taken.filter (fun parameter => !parameter.named)
  if places.length < given.length then Obj.unfit "too many arguments"
  return (places.map Taken.name).zip given

def isTaken (info : FunctionInfo) (names : Names) (row : String × Obj) : Bool :=
  info.taken.any (fun parameter => parameter.name == row.1) && (names.lookup row.1).isNone

def arguments (info : FunctionInfo) (given : List Obj) (named : Names) : Run Names := do
  let early ← info.inOrder given
  if !named.all (isTaken info early) then Obj.unfit "unexpected argument"
  let names := early ++ named
  let missing ← info.taken.filterMapM (fun parameter => do
    match names.lookup parameter.name,parameter.fallback with
    | some _,_ => return none
    | none,some fallback => return some (parameter.name,fallback)
    | none,none => Obj.unfit "missing argument")
  return names ++ missing

def enter (call : Caller) (info : FunctionInfo) (given : List Obj) (named : Names) : Run Obj := do
  let world ← get
  if deepestCall ≤ world.depth then Run.fail .endless "maximum recursion depth exceeded"
  let names ← info.arguments given named
  let place ← Run.keep (.names names)
  modify (fun inside => { inside with depth := world.depth + 1 })
  let body := Statement.runAll call ⟨.function,place,info.locals,info.builtins,info.home,none⟩ info.body
  let flow ← Run.rescue body (fun raised => do
    modify (fun inside => { inside with depth := world.depth })
    throw raised)
  modify (fun inside => { inside with depth := world.depth })
  match flow with
  | .next => return .nothing
  | .given value => return value

end FunctionInfo

def invoke : Nat → Caller
  | 0 => fun _ _ _ => Run.fail .endless "maximum recursion depth exceeded"
  | fuel + 1 => fun object given named => do
    match object with
    | .place index =>
      match ← Run.cell? index with
      | some (.function info) => info.enter (invoke fuel) given named
      | _ => Native.apply (invoke fuel) object given named
    | object => Native.apply (invoke fuel) object given named

-- There is more fuel than calls can be nested in each other.
def caller : Caller := invoke (10 * deepestCall)

end NativeBinding.Script
