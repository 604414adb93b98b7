import NativeBinding.Emitted.Codec
import NativeBinding.Script.Load
import NativeBinding.Session.Step

namespace NativeBinding.Script
open Wire

namespace Steps

def exported (name : String) : Run Obj := do
  let names ← Frame.namesOf Frame.globals
  if name == "__class__" then return .type .module
  else if name == "__dict__" then return .thing .dict
  else match names.lookup name with
    | some found => return found
    | none =>
      if (BaseType.object.slotKind? name).isSome then return .bound (.slot .object name) (.thing .module)
      else if name == "__annotations__" then return .thing .dict
      else match names.lookup "__getattr__" with
        | some looking => caller looking [.text name] []
        | none => Run.fail .attribute name

def ofValue : Value → Obj
  | .null => .nothing
  | .bool value => .bool value
  | .int value => .int value
  | .float value => .float value
  | .text value => .text value
  | .bytes value => .bytes value
  | _ => .thing .object

mutual
def build : Literal → Run Obj
  | .value data => return ofValue data
  | .member enumeration label => do
    let object ← exported enumeration
    itemOf object (.text label)
  | .wrapped payload => do
    let wrap ← exported "Some"
    let value ← build payload
    caller wrap [value] []
  | .record name values => do
    let object ← exported name
    let given ← buildAll values
    caller object given []

def buildAll : List Literal → Run (List Obj)
  | [] => return []
  | literal :: rest => do
    let value ← build literal
    let others ← buildAll rest
    return value :: others
end

def refuse (cause : Fault) : Run α := do
  let message := cause.message?.getD ""
  let place ← Run.keep (.instance (.base (.failure .value)) [] (.arguments [.text message]))
  throw (.place place)

def evaluated (expr : Expr) : Run Obj := do
  match Parse.alone expr.text with
  | none => Run.fail .grammar "invalid syntax"
  | some term =>
    if term.isSound then do
      let builtins ← moduleFrame.current
      term.evaluate caller { moduleFrame with builtins := builtins }
    else Run.fail .grammar "invalid syntax"

def attempt (action : Run α) : Run (Except Fault α) := fun world =>
  let (result,after) := outcome action world
  .ok result after

def ownBuffer (bytes : List UInt8) (length : Nat) : Run Obj := do
  return .buffer (← Memory.make bytes) length

def writeEach (writer : Obj) : List (WriteOp Obj) → Run (List (Except Fault PUnit))
  | [] => return []
  | op :: rest => do
    let result ← attempt (do
      let _ ← match op with
        | .finish => do
          let method ← Obj.member caller writer "finish"
          caller method [] []
        | .write method value => do
          let method ← Obj.member caller writer method.name
          caller method [value] [])
    let results ← writeEach writer rest
    return result :: results

def readEach (reader : Obj) : List ReadOp → Run (List (Except Fault Value))
  | [] => return []
  | op :: rest => do
    let result ← attempt (do
      let method ← Obj.member caller reader op.name
      let object ← caller method [] []
      object.revealed caller)
    let results ← readEach reader rest
    return result :: results

def contentOf (object : Obj) : Run (List UInt8) := do
  match object with
  | .array address size => Memory.read address size
  | object =>
    let made ← Obj.toBytes caller object
    return (← made.bytes?).getD []

-- Takes a buffer out of the books without the component seeing it. What is no buffer
-- has to have an address at least.
def consumed (object : Obj) : Run Nat := do
  match object with
  | .buffer address length => do
    Component.onLibrary (fun library => library.drop ⟨Memory.id? address,length⟩)
    return address
  | object => do
    let data ← Obj.member caller object "data"
    match ← data.address? with
    | some address => return address
    | none => Run.fail .argument "wrong type"

def consumedContent (object : Obj) : Run (List UInt8) := do
  let content ← match object with
    | .buffer address length => Component.contentOf address length
    | _ => pure []
  let _ ← consumed object
  return content

def textObj : Option String → Obj
  | none => .nothing
  | some text => .text text

def libraryObj : Option Owner → Obj
  | none => .nothing
  | some owner => .library owner

def ownerOf : Obj → Owner
  | .library owner => owner
  | _ => .other

def entry (found : Supported Expr) (use : Obj → Run (Except Fault Result)) : Run (Except Fault Result) := do
  match found with
  | .error cause => return .error (.unsupported cause)
  | .ok expr => use (← evaluated expr)

-- A step that names what there is no entry for is refused without anything happening.
def step : Step Obj → Run (Except Fault Result)
  | .call name values reply fails => do
    let object ← exported name
    modify (fun world => { world with reply,fails })
    let result ← caller object values []
    return .ok (.value (← result.revealed caller))
  | .adjust failFree allocDelta => do
    Component.onLibrary (fun library => { library with
      failFree := failFree.getD library.failFree,allocDelta := allocDelta.getD library.allocDelta })
    return .ok (.value .null)
  | .ordinal enumeration ordinal => do
    let object ← exported enumeration
    let method ← Obj.member caller object "_from_ordinal"
    let found ← caller method [ordinal] []
    return .ok (.value (← found.revealed caller))
  | .size type value => entry type.sizeEntry (fun size => do
    let result ← caller size [value] []
    return .ok (.value (← result.revealed caller)))
  | .encode type value => do
    let lower ← exported "_lower_buffer"
    entry type.sizeEntry (fun size => entry type.writeEntry (fun write => do
      let buffer ← caller lower [value,size,write] []
      return .ok (.content (← consumedContent buffer))))
  | .decode type native => entry type.readEntry (fun read => do
    let buffer ← Component.answer native none
    let lift ← exported "_lift_buffer"
    let result ← caller lift [buffer,read] []
    return .ok (.value (← result.revealed caller)))
  | .alloc size => do
    let allocate ← exported "_alloc_buffer"
    let buffer ← caller allocate [size] []
    let length ← Obj.member caller buffer "len"
    let _ ← consumed buffer
    return .ok (.value (← length.revealed caller))
  | .writer size ops => do
    let make ← exported "_BufferWriter"
    let buffer ← ownBuffer [] size
    let writer ← caller make [buffer] []
    let results ← writeEach writer ops
    let target ← Obj.member caller writer "_target"
    return .ok (.written results (← contentOf target))
  | .reader bytes ops => do
    let make ← exported "_BufferReader"
    let buffer ← ownBuffer bytes bytes.length
    let reader ← caller make [buffer] []
    return .ok (.read (← readEach reader ops))
  | .bind path library => do
    let begin ← exported "initialize"
    let result ← caller begin [textObj path] [("library",libraryObj library)]
    return .ok (.owner (ownerOf result))
  | .lowerText value => do
    let lower ← exported "_lower_string"
    let result ← caller lower [value] []
    match ← result.bytes? with
    | some content => return .ok (.content content)
    | none => do
      let method ← Obj.member caller result "hex"
      let shown ← caller method [] []
      return .ok (.value (← shown.revealed caller))
  | .liftText encoded => do
    let lift ← exported "_lift_string"
    let given := match encoded with
      | none => Obj.nothing
      | some content => .bytes content
    let result ← caller lift [given] []
    return .ok (.value (← result.revealed caller))
  | .refused cause => return .error cause

def begin (owner : Owner) : Run PUnit := do
  let begin ← exported "initialize"
  let _ ← caller begin [] [("library",.library owner)]

-- Values are built before anything else of a step is done.
def run (asked : Step Literal) : Run (Except Fault Result) := do
  let built ← asked.mapM build
  step built

def afresh (world : World) : World := { world with depth := 0,reply := .null,fails := false }

def advance (asked : Step Literal) (world : World) : Except Fault Result × World :=
  match outcome (run asked) (afresh world) with
  | (.ok result,after) => (result,after)
  | (.error problem,after) => (.error problem,after)

end Steps
end NativeBinding.Script
