import NativeBinding.Script.Memory
import NativeBinding.Script.Show

namespace NativeBinding.Script
open Wire

namespace Obj

def isWrapped (object : Obj) : Run Bool := do
  match (← (Obj.place 0).namesAt).lookup "Some" with
  | none => return false
  | some wrapper =>
    match ← wrapper.asClass? with
    | some cls => (← object.classOf).inherits cls
    | none => unfit "isinstance() arg 2 must be a type"

mutual
def reveal (call : Caller) : Nat → Obj → Run Value
  | 0,_ => Run.fail .endless "maximum recursion depth exceeded"
  | fuel + 1,object => do
    match object with
    | .nothing => return .null
    | .bool value => return .bool value
    | .int value => return .int value
    | .float value => return .float value
    | .text value => return .text value
    | .bytes value => return .bytes value
    | .zeros count => return .bytes (List.replicate count 0)
    | .place index =>
      match ← Run.cell? index with
      | some (.instance cls names _) => do
        let name ← cls.name
        if ← cls.inherits (.base .enum) then
          match names.lookup "_name_" with
          | some (.text label) => return .member ⟨name,[]⟩ label 0
          | _ => unfit "no data"
        else if ← object.isWrapped then do
          let payload ← member call object "value"
          return .wrapped (← reveal call fuel payload)
        else if ← object.isRecord then
          return .record name (← revealEach call fuel object (← fieldNames cls))
        else unfit "no data"
      | _ => unfit "no data"
    | _ => unfit "no data"

def revealEach (call : Caller) : Nat → Obj → List String → Run (List (String × Value))
  | 0,_,_ => Run.fail .endless "maximum recursion depth exceeded"
  | _ + 1,_,[] => return []
  | fuel + 1,object,name :: rest => do
    let value ← member call object name
    let shown ← reveal call fuel value
    let others ← revealEach call fuel object rest
    return (name,shown) :: others
end

def revealed (call : Caller) (object : Obj) : Run Value := reveal call deepest object

end Obj

namespace Component

def emit (event : Event) : Run PUnit :=
  Run.onSession (fun session => { session with events := session.events ++ [event] })

def onLibrary (change : Library → Library) : Run PUnit :=
  Run.onSession (fun session => { session with library := change session.library })

def warn (text : String) : Run PUnit :=
  Run.onSession (fun session => { session with log := session.log ++ [⟨.warning,text⟩] })

def contentOf (address : Nat) (length : Int) : Run (List UInt8) :=
  if address = 0 then return [] else Memory.read address length.toNat

def isLive (buffer : Buffer) : Run Bool := do
  let world ← get
  return world.session.library.isLive buffer

def passed (call : Caller) (object : Obj) : Run Passed := do
  match object with
  | .buffer address length => do
    let buffer : Buffer := ⟨Memory.id? address,length⟩
    return .buffer (if ← isLive buffer then buffer.id else none) (← contentOf address length)
  | object => return .value (← object.revealed call)

def fresh (size : Nat) (content : List UInt8) (length : Int) : Run Obj := do
  let world ← get
  let (buffer,library) := world.session.library.make size content length
  onLibrary (fun _ => library)
  return .buffer (Memory.ofBuffer library.made) buffer.length

def answer (reply : Reply Obj) (echoed : Option (List UInt8)) : Run Obj := do
  match reply with
  | .null => return .nothing
  | .value object => return object
  | .echo =>
    match echoed with
    | some content => fresh content.length content content.length
    | none => Obj.unfit "nothing to send back"
  | .fresh content length => fresh content.length content (length.getD content.length)
  | .noData length => return .buffer 0 (Library.reported length)

def firstContent : List Passed → Option (List UInt8)
  | [] => none
  | .buffer _ content :: _ => some content
  | _ :: rest => firstContent rest

-- What the component does when it is called. It owns its buffer arguments once it
-- returns.
def respond (call : Caller) (symbol : String) (arguments : List Obj) : Run Obj := do
  let world ← get
  let given ← arguments.mapM (passed call)
  emit (.call symbol given)
  if world.fails then Run.fail .system "native call failed"
  else do
    onLibrary (fun library => (arguments.filterMap Obj.buffer?).foldl Library.drop library)
    answer world.reply (firstContent given)

-- The size is shown as it was given, truth values as such.
def allocate (size : Obj) : Run Obj := do
  match ← size.number? with
  | none => Obj.unfit "can't multiply sequence by non-int"
  | some count => do
    let world ← get
    let buffer ← fresh count.toNat [] (count + world.session.library.allocDelta)
    emit (.alloc (world.session.library.made + 1) (match size with
      | .bool flag => .bool flag
      | _ => .int count))
    return buffer

def release (call : Caller) (object : Obj) : Run Obj := do
  let buffer ← match object with
    | .buffer address length => do pure (⟨Memory.id? address,length⟩ : Buffer)
    | object => do
      let data ← Obj.member call object "data"
      match ← data.address? with
      | some _ => pure ⟨none,0⟩
      | none => Run.fail .argument "wrong type"
  let live ← isLive buffer
  emit (.free (if live then buffer.id else none))
  let world ← get
  if world.session.library.failFree then Run.fail .system "native free failed"
  else do
    onLibrary (fun library => if live then library.drop buffer else library)
    return .nothing

-- The entry points of the buffer protocol stand in front of functions that have their
-- names.
def enter (call : Caller) (symbol : String) (arguments : List Obj) : Run Obj := do
  let world ← get
  if symbol == world.component.alloc then
    match arguments with
    | [size] => allocate size
    | _ => Obj.unfit "wrong number of arguments"
  else if symbol == world.component.free then
    match arguments with
    | [buffer] => release call buffer
    | _ => Obj.unfit "wrong number of arguments"
  else respond call symbol arguments

end Component
end NativeBinding.Script
