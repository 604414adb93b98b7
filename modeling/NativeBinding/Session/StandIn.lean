import NativeBinding.Session.Ownership

namespace NativeBinding
open Wire

namespace Value

def isAddress : Value → Bool
  | .null => true
  | .text _ => true
  | .bytes _ => true
  | value => value.toInt?.isSome

-- A value that stands where a buffer is expected is taken for one as far as it
-- has the parts of a buffer. Only bytes have content to be read.
def bufferContent (value : Value) : Except Fault (List UInt8) := do
  let length ← value.partOf "len"
  match length.negative? with
  | none => .error .wrongKind
  | some true => .error (.disagreement (.negativeLength length.shown))
  | some false => do
    let data ← value.partOf "data"
    if length.truthy && !data.truthy then .error (.disagreement (.missingData length.shown))
    else if !data.isAddress then .error .wrongArgument
    else if !length.truthy then .ok []
    else match length.toInt?,data with
      | some count,.bytes content => Read.unread content count
      | _,_ => .error .wrongArgument

end Value

namespace Act

def releaseStandIn (value : Value) : Act Unit := do
  let data ← ofResult (value.partOf "data")
  if !data.isAddress then throw .wrongArgument
  emit (.free none)
  let session ← get
  if session.library.failFree then throw .releaseFailed

def freeStandIn (value : Value) : Act Unit := do
  needLibrary
  releaseStandIn value

def freeStandInQuietly (value : Value) : Act Unit := fun session =>
  match freeStandIn value session with
  | .ok _ after => .ok () after
  | .error _ after => warn quietWarning after

def liftStandIn (model : Model) (type : TypeRef) (value : Value) : Act Value := do
  let lifted ← guardingStandIn value (do
    let content ← ofResult value.bufferContent
    match (do let lifted ← model.decode type; Read.finish; return lifted : Read Value) content with
    | .ok lifted _ => return lifted
    | .error fault _ => throw fault)
  freeStandIn value
  return lifted
where
  guardingStandIn (value : Value) (action : Act Value) : Act Value := fun session =>
    match action session with
    | .ok lifted after => .ok lifted after
    | .error fault after => (do freeStandInQuietly value; throw fault : Act Value) after

end Act
end NativeBinding
