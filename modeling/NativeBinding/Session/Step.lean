import NativeBinding.Codec.Entry
import NativeBinding.Session.Call
import NativeBinding.Session.Literal

namespace NativeBinding
open Wire

inductive WriteMethod
  | truth | presence | u32 | u64 | i32 | single | double | bytes | text | raw
deriving DecidableEq,Repr

def WriteMethod.name : WriteMethod → String
  | .truth => "write_bool"
  | .presence => "write_presence"
  | .u32 => "write_u32"
  | .u64 => "write_u64"
  | .i32 => "write_i32"
  | .single => "write_float"
  | .double => "write_double"
  | .bytes => "write_bytes"
  | .text => "write_string"
  | .raw => "write_raw"

inductive WriteOp (α : Type)
  | write (method : WriteMethod) (value : α)
  | finish

def WriteOp.mapM [Monad m] (build : α → m β) : WriteOp α → m (WriteOp β)
  | .write method value => do
    let built ← build value
    return .write method built
  | .finish => return .finish

def WriteMethod.run : WriteMethod → Value → Write Unit
  | .truth => Write.truth
  | .presence => Write.truth
  | .u32 => Write.u32
  | .u64 => Write.u64
  | .i32 => Write.i32
  | .single => Write.single
  | .double => Write.double
  | .bytes => Write.bytes
  | .text => Write.text
  | .raw => Write.raw

def WriteOp.run : WriteOp Value → Write Unit
  | .write method value => method.run value
  | .finish => Write.finish

inductive ReadOp
  | truth | presence | u32 | u64 | i32 | single | double | bytes | text | remaining | finish
deriving DecidableEq,Repr

def ReadOp.name : ReadOp → String
  | .truth => "read_bool"
  | .presence => "read_presence"
  | .u32 => "read_u32"
  | .u64 => "read_u64"
  | .i32 => "read_i32"
  | .single => "read_float"
  | .double => "read_double"
  | .bytes => "read_bytes"
  | .text => "read_string"
  | .remaining => "read_remaining"
  | .finish => "finish"

def ReadOp.run : ReadOp → Read Value
  | .truth => do return .bool (← Read.truth)
  | .presence => do return .bool (← Read.presence)
  | .u32 => do return .int (← Read.word 4)
  | .u64 => do return .int (← Read.word 8)
  | .i32 => do return .int (← Read.i32)
  | .single => do return .float (← Read.single)
  | .double => do return .float (← Read.double)
  | .bytes => do return .bytes (← Read.bytes)
  | .text => do return .text (← Read.text)
  | .remaining => do return .bytes (← Read.remaining)
  | .finish => do
    Read.finish
    return .null

-- A failing operation does not keep later ones from being tried.
def writeRun (writer : Writer) : List (WriteOp Value) → List (Except Fault Unit) × Writer
  | [] => ([],writer)
  | op :: rest =>
    let (result,next) : Except Fault Unit × Writer :=
      match op.run writer with
      | .ok _ next => (.ok (),next)
      | .error fault next => (.error fault,next)
    let (results,last) := writeRun next rest
    (result :: results,last)

def readEach (unread : List UInt8) : List ReadOp → List (Except Fault Value)
  | [] => []
  | op :: rest =>
    match op.run unread with
    | .ok value next => .ok value :: readEach next rest
    | .error fault next => .error fault :: readEach next rest

def readRun (memory : List UInt8) (ops : List ReadOp) : Except Fault (List (Except Fault Value)) := do
  let unread ← Read.unread memory memory.length
  return readEach unread ops

inductive Step (α : Type)
  | call (function : String) (values : List α) (reply : Reply α) (fails : Bool)
  | adjust (failFree : Option Bool) (allocDelta : Option Int)
  | ordinal (enumeration : String) (ordinal : α)
  | size (type : TypeRef) (value : α)
  | encode (type : TypeRef) (value : α)
  | decode (type : TypeRef) (native : Reply α)
  | alloc (size : α)
  | writer (size : Nat) (ops : List (WriteOp α))
  | reader (bytes : List UInt8) (ops : List ReadOp)
  | bind (path : Option String) (library : Option Owner)
  | lowerText (value : α)
  | liftText (encoded : Option (List UInt8))
  | refused (cause : Fault)

def Step.mapM [Monad m] (build : α → m β) : Step α → m (Step β)
  | .call function values reply fails => do
    let values ← values.mapM build
    let reply ← reply.mapM build
    return .call function values reply fails
  | .adjust failFree allocDelta => return .adjust failFree allocDelta
  | .ordinal enumeration number => do
    let number ← build number
    return .ordinal enumeration number
  | .size type value => do
    let value ← build value
    return .size type value
  | .encode type value => do
    let value ← build value
    return .encode type value
  | .decode type native => do
    let native ← native.mapM build
    return .decode type native
  | .alloc count => do
    let count ← build count
    return .alloc count
  | .writer length ops => do
    let ops ← ops.mapM (WriteOp.mapM build)
    return .writer length ops
  | .reader bytes ops => return .reader bytes ops
  | .bind path library => return .bind path library
  | .lowerText value => do
    let value ← build value
    return .lowerText value
  | .liftText encoded => return .liftText encoded
  | .refused cause => return .refused cause

inductive Result
  | value (value : Value)
  | content (bytes : List UInt8)
  | owner (owner : Owner)
  | written (results : List (Except Fault Unit)) (content : List UInt8)
  | read (results : List (Except Fault Value))

namespace Act

-- The library is bound once and never replaced. Asking again is allowed as long
-- as nothing else is asked for. No file is ever found.
def bind (path : Option String) (library : Option Owner) : Act Owner := do
  let session ← get
  match session.bound,library with
  | none,none => openLibrary (path.getD session.file)
  | none,some owner => do
    set { session with bound := some owner }
    return owner
  | some owner,asked =>
    if path.isSome || asked.any (fun wanted => wanted != owner) then throw .alreadyBound
    else return owner

def consume (buffer : Buffer) : Act (List UInt8) := do
  let session ← get
  let content := session.library.content buffer
  onLibrary (fun library => library.drop buffer)
  return content

def step (model : Model) : Step Value → Act Result
  | .call name values reply fails =>
    match model.function? name with
    | none => throw .missingAttribute
    | some function => do return .value (← call model function values reply fails)
  | .adjust failFree allocDelta => do
    onLibrary (fun library => { library with
      failFree := failFree.getD library.failFree,allocDelta := allocDelta.getD library.allocDelta })
    return .value .null
  | .ordinal enumeration ordinal => do
    if (model.enumeration? enumeration).isNone then throw .missingAttribute
    return .value (← ofResult (model.fromOrdinal enumeration ordinal))
  | .size type value => do
    ofResult (model.resolve type)
    let size ← ofResult (model.encodedSize type value)
    return .value (.int size)
  | .encode type value => do
    ofResult (model.resolve type)
    let buffer ← lowerBuffer model type value
    return .content (← consume buffer)
  | .decode type native => do
    ofResult (model.resolve type)
    let returned ← answer native none
    return .value (← liftReturned model type returned)
  | .alloc (.int size) => do
    let buffer ← alloc size
    onLibrary (fun library => library.drop buffer)
    return .value (.int buffer.length)
  | .alloc _ => throw .wrongKind
  | .writer size ops => do
    let (results,writer) := writeRun (Writer.ofSize size) ops
    return .written results writer.content
  | .reader bytes ops => do return .read (← ofResult (readRun bytes ops))
  | .bind path library => do return .owner (← bind path library)
  | .lowerText value => do return .content (← ofResult (lowerText value))
  | .liftText encoded => do
    let returned := match encoded with
      | none => Returned.null
      | some encoded => Returned.value (.bytes encoded)
    return .value (← ofResult (liftText returned))
  | .refused cause => throw cause

def run (model : Model) (asked : Step Literal) : Act Result := do
  let built ← ofResult (asked.mapM (Literal.build model))
  step model built

end Act

structure Outcome where
  result : Except Fault Result
  events : List Event
  live : List Nat
  log : List Report

namespace Session

def start (file : String) (bound : Option Owner) : Session := ⟨Library.empty,file,bound,[],[]⟩

-- A step starts with nothing shown. A failed step leaves its state behind too.
def advanceBy (session : Session) (action : Act Result) : Outcome × Session :=
  match action { session with events := [],log := [] } with
  | .ok result after => (⟨.ok result,after.events,after.library.live,after.log⟩,after)
  | .error fault after => (⟨.error fault,after.events,after.library.live,after.log⟩,after)

def advance (model : Model) (session : Session) (asked : Step Literal) : Outcome × Session :=
  session.advanceBy (Act.run model asked)

def run (model : Model) (session : Session) : List (Step Literal) → List Outcome
  | [] => []
  | asked :: rest =>
    let (outcome,after) := session.advance model asked
    outcome :: run model after rest

end Session
end NativeBinding
