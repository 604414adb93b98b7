import NativeBinding.Script.Classes
import NativeBinding.Script.Component
import NativeBinding.Script.Layout

namespace NativeBinding.Script
open Wire

namespace Native

def withoutNames (named : Names) : Run PUnit :=
  if named.isEmpty then pure () else Obj.unfit "takes no keyword arguments"

-- No library is ever found in a file. A name without characters stands for the
-- process itself, which has none of the entry points.
def loadFile (object : Obj) : Run Obj := do
  let file ← match object with
    | .text file => pure file
    | .bytes content =>
      match Text.Utf8.decode content with
      | some file => pure file
      | none => Obj.unfit "no file name"
    | _ => Obj.unfit "expected str, bytes or os.PathLike object"
  match Library.problem? file with
  | none => return .library .other
  | some problem =>
    Run.fail (if problem.kind == .value then .value else .system) (problem.message?.getD "")

def pathText (object : Obj) : Run Obj :=
  match object with
  | .text path => return .text path
  | _ => Obj.unfit "expected str, bytes or os.PathLike object"

def cast (object : Obj) : Run Obj := do
  match ← object.address? with
  | none => Run.fail .argument "wrong type"
  | some address => do
    let value := if address = 0 then .nothing else .int address
    return .place (← Run.keep (.instance (.base .simple) [("value",value)] .plain))

def textAt (start count : Obj) : Run Obj := do
  match ← start.address?,← count.number? with
  | some address,some count =>
    match Read.unread (← Memory.from? address) count with
    | .ok bytes => return .bytes bytes
    | .error _ => Run.fail .defect "Negative size passed to PyBytes_FromStringAndSize"
  | _,_ => Run.fail .argument "wrong type"

-- Where something can be written to, with the room that is there. The two words that
-- make up a buffer cannot be seen.
def target? (object : Obj) : Run (Option (Nat × Nat)) :=
  match object with
  | .array address size => return some (address,size)
  | .buffer .. => return some (0,16)
  | .place index => do
    match ← Run.cell? index with
    | some (.memory content) => return some (Memory.ofPlace index,content.length)
    | _ => return none
  | _ => return none

def roomFor (layout : Layout) (offset : Int) (room : Nat) : Run Nat :=
  if offset < 0 then Layout.unpackable "no space to pack"
  else if (room : Int) - offset < layout.size then Layout.unpackable "requires a larger buffer"
  else return offset.toNat

def packEach (call : Caller) (layout : Layout) (start : Nat) : List ((Nat × LayoutItem) × Obj) → Run PUnit
  | [] => return ()
  | ((offset,item),value) :: rest => do
    let bytes ← Run.rescue (layout.valueBytes call item value) (fun raised => do
      Memory.write (start + offset) (← layout.remains item value)
      throw raised)
    Memory.write (start + offset) bytes
    packEach call layout start rest

-- The place that is written to is cleared first.
def pack (call : Caller) (layout : Layout) (target offset : Obj) (values : List Obj) : Run Obj := do
  if values.length ≠ layout.values.length then Layout.unpackable "wrong number of items"
  match ← target? target,← offset.number? with
  | some (address,room),some offset => do
    let start ← roomFor layout offset room
    Memory.write (address + start) (List.replicate layout.size 0)
    packEach call layout (address + start) (layout.values.zip values)
    return .nothing
  | none,_ => Obj.unfit "argument must be read-write bytes-like object"
  | _,none => Obj.unfit "cannot be interpreted as an integer"

def unpack (layout : Layout) (source offset : Obj) : Run Obj := do
  let data ← match source with
    | .array address size => do pure (some (← Memory.read address size))
    | source => source.bytes?
  match data,← offset.number? with
  | some data,some offset => do
    let start ← roomFor layout offset data.length
    return .tuple (layout.values.map (fun row => layout.valueAt data (start + row.1) row.2))
  | none,_ => Obj.unfit "a bytes-like object is required"
  | _,none => Obj.unfit "cannot be interpreted as an integer"

def routine (call : Caller) (which : Routine) (given : List Obj) (named : Names) : Run Obj := do
  match which,given with
  | .record,[] => do
    let frozen ← Obj.truth call ((named.lookup "frozen").getD (.bool false))
    return .routine (.makeRecord frozen)
  | .record,[object] => Classes.asRecord call false object
  | .makeRecord frozen,[object] => Classes.asRecord call frozen object
  | .logger,_ => return .thing .logger
  | _,_ => do
    withoutNames named
    match which,given with
    | .length,[object] => object.length call
    | .layoutSize,[format] => return .int (← Layout.ofObject format).size
    | .layoutPack,format :: target :: offset :: values => do
      let layout ← Layout.ofObject format
      pack call layout target offset values
    | .layoutUnpack,[format,source,offset] => do
      let layout ← Layout.ofObject format
      unpack layout source offset
    | .cast,[object,_] => cast object
    | .textAt,[start,count] => textAt start count
    | .pointerTo,[_] => return .type .pointer
    | .loadFile,[file] => loadFile file
    | .lock,[] => return .thing .lock
    | .directoryName,[path] => pathText path
    | .absolutePath,[path] => pathText path
    | .joinPaths,[first,last] => do
      let _ ← pathText first
      pathText last
    | .pathExists,[_] => return .bool false
    | .workingDirectory,[] => return .text "/"
    | _,_ => Obj.unfit "wrong number of arguments"

def emptyMemory (bytes : List UInt8) : Run Obj := do
  return .place (← Run.keep (.memory bytes))

def construct (call : Caller) (which : BaseType) (given : List Obj) (named : Names) : Run Obj := do
  withoutNames named
  match which,given with
  | .bytes,[] => return .bytes []
  | .bytes,[object] => Obj.toBytes call object
  | .byteArray,[] => emptyMemory []
  | .byteArray,[object] => do
    let made ← Obj.toBytes call object
    emptyMemory ((← made.bytes?).getD [])
  | .classMethod,[function] => return .classMethod function
  | .typeVariable,_ :: _ => return .thing .typeVariable
  | .failure which,given => return .place (← Run.keep (.instance (.base (.failure which)) [] (.arguments given)))
  | .kind,[object] => return Obj.ofClass (← object.classOf)
  | .dict,[] => return .place (← Run.keep (.names []))
  | .list,[] => return .place (← Run.keep (.list []))
  | .tuple,[] => return .tuple []
  | .int,[] => return .int 0
  | .text,[] => return .text ""
  | .bool,[object] => return .bool (← Obj.truth call object)
  | .text,[object] => return .text (← Obj.outer call Obj.deepest object)
  | .object,[] => return .place (← Run.keep (.instance (.base .object) [] .plain))
  | _,_ => Obj.unfit "wrong number of arguments"

def appended (list item : Obj) : Run Obj := do
  match list,← list.listAt? with
  | .place index,some items => do
    Run.replace index (.list (items ++ [item]))
    return .nothing
  | _,_ => Obj.unfit "wrong object"

def fixFields (object : Obj) (given : List Obj) (named : Names) : Run Obj := do
  let fields ← Obj.fieldNames (← object.classOf)
  let early := fields.take given.length
  let late := fields.drop given.length
  if fields.length < given.length || named.any (fun row => !late.contains row.1) then
    Obj.unfit "unexpected argument"
  for row in early.zip given do Obj.putName object row.1 row.2
  for name in late do
    match named.lookup name with
    | some value => Obj.putName object name value
    | none => Obj.unfit "missing argument"
  return .nothing

def slot (call : Caller) (owner : BaseType) (name : String) (given : List Obj) (named : Names) : Run Obj := do
  match owner,name,given with
  | .logger,"warning",_ :: .text message :: _ => do
    Component.warn message
    return .nothing
  | .logger,_,_ => return .nothing
  | .recordMethods,"__init__",object :: values => fixFields object values named
  | .recordMethods,"__setattr__",[_,.text name,_] => Run.fail .frozen name
  | .enum,"__init__",_ => return .nothing
  | _,_,_ => do
    withoutNames named
    match owner,name,given with
    | .text,"encode",.text value :: _ => return .bytes (Text.Utf8.encode value)
    | .bytes,"decode",object :: _ => decoded object
    | .byteArray,"decode",object :: _ => decoded object
    | .environment,"get",[_,_] => return .nothing
    | .lock,"__enter__",[_] => return .bool true
    | .lock,"__exit__",_ => return .nothing
    | .list,"append",[list,item] => appended list item
    | .arrayType,"from_address",[.arrayType size,address] =>
      match ← address.number? with
      | some start => return .array (start % (0x10000000000000000 : Int)).toNat size
      | none => Obj.unfit "integer expected"
    | .enum,"__new__",[.place index,value] => Classes.memberFor call index value
    | .enum,"_missing_",[_,_] => return .nothing
    | .object,"__init__",[_] => return .nothing
    | .failure _,"__init__",_ => return .nothing
    | _,_,_ => Obj.unfit "wrong arguments"
where
  decoded (object : Obj) : Run Obj := do
    match ← object.bytes? with
    | none => Obj.unfit "wrong object"
    | some content =>
      match Text.Utf8.decode content with
      | some text => return .text text
      | none => Run.fail .decoding "invalid start byte"

def enumCall (call : Caller) (place : Nat) (given : List Obj) (named : Names) : Run Obj :=
  match given,named with
  | [value],[] => Classes.memberFor call place value
  | [value,.nothing],[] => Classes.memberFor call place value
  | [],[("value",value)] => Classes.memberFor call place value
  | _,_ => Obj.unfit "wrong arguments"

def instantiate (call : Caller) (place : Nat) (info : ClassInfo) (given : List Obj) (named : Names) :
    Run Obj := do
  let cls := ClassRef.made place
  if info.kind == .base .enumType then enumCall call place given named
  else if ← cls.inherits (.base (.failure .base)) then do
    withoutNames named
    return .place (← Run.keep (.instance cls [] (.arguments given)))
  else if ← cls.inherits (.base .aggregate) then do
    withoutNames named
    match given with
    | [] => return .buffer 0 0
    | length :: _ =>
      match ← length.number? with
      | some length => return .buffer 0 (Library.reported length)
      | none => Obj.unfit "int expected"
  else do
    let object := Obj.place (← Run.keep (.instance cls [] .plain))
    match ← cls.find? "__init__" with
    | some (.slot .object _) =>
      if !given.isEmpty || !named.isEmpty then Obj.unfit "takes no arguments" else return object
    | some kept => do
      let begin ← Obj.taken call kept (some object) cls
      let _ ← call begin given named
      return object
    | none => return object

def apply (call : Caller) : Caller := fun object given named =>
  match object with
  | .routine which => routine call which given named
  | .type which => construct call which given named
  | .slot owner name => slot call owner name given named
  | .bound function owner => call function (owner :: given) named
  | .entry symbol => do
    withoutNames named
    Component.enter call symbol given
  | .arrayType size => return .array (← Memory.make (List.replicate size 0)) size
  | .place index => do
    match ← Run.cell? index with
    | some (.class info) => instantiate call index info given named
    | some (.instance ..) =>
      match ← Obj.own? call object "__call__" with
      | some method => call method given named
      | none => Obj.unfit "object is not callable"
    | _ => Obj.unfit "object is not callable"
  | _ => Obj.unfit "object is not callable"

end Native
end NativeBinding.Script
