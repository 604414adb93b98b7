import NativeBinding.Script.Operate

namespace NativeBinding.Script
open Wire

-- Where memory starts: that of objects, then that of the component's buffers. Nothing
-- is larger than the distance between two of them.
namespace Memory

def stride : Nat := 0x400000000

def ownStart : Nat := 0x4000000000000

def sharedStart : Nat := 0x1000000000000000

def ofPlace (place : Nat) : Nat := ownStart + place * stride

def ofBuffer (id : Nat) : Nat := sharedStart + id * stride

inductive Region
  | own (place offset : Nat)
  | shared (id offset : Nat)
  | unknown

def region (address : Nat) : Region :=
  if sharedStart ≤ address then .shared ((address - sharedStart) / stride) ((address - sharedStart) % stride)
  else if ownStart ≤ address then .own ((address - ownStart) / stride) ((address - ownStart) % stride)
  else .unknown

def id? (address : Nat) : Option Nat :=
  match region address with
  | .shared id _ => some id
  | _ => none

def from? (address : Nat) : Run (List UInt8) := do
  match region address with
  | .own place offset =>
    match ← Run.cell? place with
    | some (.memory content) => return content.drop offset
    | _ => return []
  | .shared id offset =>
    let world ← get
    return (world.session.library.content ⟨some id,0⟩).drop offset
  | .unknown => return []

-- What nobody has written is zero.
def read (address count : Nat) : Run (List UInt8) := do
  let found := (← from? address).take count
  return found ++ List.replicate (count - found.length) 0

def spliced (content : List UInt8) (offset : Nat) (bytes : List UInt8) : List UInt8 :=
  let before := content.take offset
  before ++ List.replicate (offset - before.length) 0 ++ bytes ++ content.drop (offset + bytes.length)

def write (address : Nat) (bytes : List UInt8) : Run PUnit := do
  match region address with
  | .own place offset =>
    match ← Run.cell? place with
    | some (.memory content) => Run.replace place (.memory (spliced content offset bytes))
    | _ => return ()
  | .shared id offset =>
    let change (library : Library) : Library :=
      { library with blocks := library.blocks.map (fun block =>
        if block.id == id then { block with written := spliced block.written offset bytes } else block) }
    Run.onSession (fun session => { session with library := change session.library })
  | .unknown => return ()

def make (bytes : List UInt8) : Run Nat := do
  return ofPlace (← Run.keep (.memory bytes))

end Memory

namespace Obj

-- What can be taken for an address, as one. Texts and bytes are kept where they are.
def address? (object : Obj) : Run (Option Nat) := do
  match object with
  | .nothing => return some 0
  | .pointer address => return some address
  | .array address _ => return some address
  | .text value => return some (← Memory.make (Text.Utf8.encode value))
  | .bytes value => return some (← Memory.make value)
  | .zeros count => return some (← Memory.make (List.replicate count 0))
  | object => return (← object.number?).map (fun value => (value % (0x10000000000000000 : Int)).toNat)

def buffer? : Obj → Option Buffer
  | .buffer address length => some ⟨Memory.id? address,length⟩
  | _ => none

end Obj
end NativeBinding.Script
