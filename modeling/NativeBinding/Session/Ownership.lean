import NativeBinding.Codec.Decode
import NativeBinding.Codec.Encode
import NativeBinding.Report
import NativeBinding.Session.Library

namespace NativeBinding
open Wire

inductive Owner
  | this | other
deriving DecidableEq,Repr

structure Session where
  library : Library
  file : String
  bound : Option Owner
  events : List Event
  log : List Report

-- A failing action keeps the state that it has reached.
abbrev Act (α : Type) := EStateM Fault Session α

namespace Act

def disagree (cause : Disagreement) : Act α := throw (.disagreement cause)

def ofResult (result : Except Fault α) : Act α :=
  match result with
  | .ok value => pure value
  | .error fault => throw fault

def emit (event : Event) : Act Unit :=
  modify (fun session => { session with events := session.events ++ [event] })

def warn (text : String) : Act Unit :=
  modify (fun session => { session with log := session.log ++ [⟨.warning,text⟩] })

def onLibrary (change : Library → Library) : Act Unit :=
  modify (fun session => { session with library := change session.library })

def openLibrary (file : String) : Act α := throw ((Library.problem? file).getD .missingAttribute)

-- Foreign calls need the component's entry points. There is no file to be found,
-- and another library has no such entry points.
def needLibrary : Act Unit := do
  let session ← get
  match session.bound with
  | none => openLibrary session.file
  | some .this => return ()
  | some .other => throw .missingAttribute

-- The component sees every release. One that fails leaves the buffer live.
def release (buffer : Buffer) : Act Unit := do
  let session ← get
  emit (.free (if session.library.isLive buffer then buffer.id else none))
  if session.library.failFree then throw .releaseFailed
  else onLibrary (fun library => library.drop buffer)

def free (buffer : Buffer) : Act Unit := do
  needLibrary
  release buffer

def quietWarning : String := "failed to release native buffer during error cleanup"

def freeQuietly (buffer : Buffer) : Act Unit := fun session =>
  match free buffer session with
  | .ok _ after => .ok () after
  | .error _ after => warn quietWarning after

def guarding (buffer : Buffer) (action : Act α) : Act α := fun session =>
  match action session with
  | .ok value after => .ok value after
  | .error fault after => (do freeQuietly buffer; throw fault : Act α) after

def largestBuffer : Int := 0xFFFFFFFF

-- The component may report another length than it was asked for.
def make (size : Int) : Act Buffer := do
  let session ← get
  let (buffer,library) := session.library.make size.toNat [] (size + session.library.allocDelta)
  onLibrary (fun _ => library)
  emit (.alloc library.made (.int size))
  return buffer

def alloc (size : Int) : Act Buffer := do
  if largestBuffer < size then throw (.oversized size)
  needLibrary
  let buffer ← make size
  if buffer.length = size then return buffer
  else do
    freeQuietly buffer
    disagree (.wrongAllocation size (toString buffer.length))

def checkAddress (buffer : Buffer) : Act Unit := do
  if buffer.length < 0 then disagree (.negativeLength (toString buffer.length))
  if buffer.length ≠ 0 ∧ buffer.id.isNone then disagree (.missingData (toString buffer.length))

-- Writes straight into the memory of a buffer, which keeps what was written
-- when the writing fails.
def fill (buffer : Buffer) (write : Write Unit) : Act Unit := do
  checkAddress buffer
  match write (Writer.ofSize buffer.length.toNat) with
  | .ok _ writer => onLibrary (fun library => library.store buffer (writer.filled ++ writer.residue))
  | .error fault writer => do
    onLibrary (fun library => library.store buffer (writer.filled ++ writer.residue))
    throw fault

def lowerBuffer (model : Model) (type : TypeRef) (value : Value) : Act Buffer := do
  let size ← ofResult (model.encodedSize type value)
  let buffer ← alloc size
  guarding buffer (fill buffer (do model.encode type value; Write.finish))
  return buffer

def scan (buffer : Buffer) (read : Read α) : Act α := do
  checkAddress buffer
  let session ← get
  let unread ← ofResult (Read.unread (session.library.content buffer) buffer.length)
  match read unread with
  | .ok value _ => return value
  | .error fault _ => throw fault

def liftBuffer (model : Model) (type : TypeRef) (buffer : Buffer) : Act Value := do
  let value ← guarding buffer (scan buffer (do
    let value ← model.decode type
    Read.finish
    return value))
  free buffer
  return value

end Act
end NativeBinding
