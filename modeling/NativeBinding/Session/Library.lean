import NativeBinding.Fault
import NativeBinding.Text.Utf8
import NativeBinding.Value

namespace NativeBinding

-- A buffer as it is handed over: its own number unless it has no data, and the
-- length it reports, a signed 64-bit number.
structure Buffer where
  id : Option Nat
  length : Int
deriving DecidableEq,Repr

structure Block where
  id : Nat
  size : Nat
  written : List UInt8
deriving DecidableEq,Repr

def Block.content (block : Block) : List UInt8 :=
  block.written ++ List.replicate (block.size - block.written.length) 0

inductive Passed
  | value (value : Value)
  | buffer (id : Option Nat) (content : List UInt8)

-- What the component sees, in order. A size is shown as it was given.
inductive Event
  | alloc (id : Nat) (size : Value)
  | free (id : Option Nat)
  | call (symbol : String) (arguments : List Passed)

inductive Reply (α : Type)
  | null
  | value (value : α)
  | echo
  | fresh (content : List UInt8) (length : Option Int)
  | noData (length : Int)

def Reply.mapM [Monad m] (build : α → m β) : Reply α → m (Reply β)
  | .null => return .null
  | .value given => do
    let built ← build given
    return .value built
  | .echo => return .echo
  | .fresh content length => return .fresh content length
  | .noData length => return .noData length

inductive Returned
  | null
  | value (value : Value)
  | buffer (buffer : Buffer)

-- The component side. Buffers are numbered from 1 in the order they are made,
-- whoever makes them.
structure Library where
  made : Nat
  blocks : List Block
  failFree : Bool
  allocDelta : Int
deriving DecidableEq,Repr

namespace Library

def isDirectory (file : String) : Bool :=
  file.toList.contains '/' && (file.splitOn "/").all (fun step => ["",".",".."].contains step)

-- What is wrong with a file that is to be opened as a library. None is ever found in
-- one. A name without characters stands for the process itself.
def problem? (file : String) : Option Fault :=
  if file.isEmpty then none
  else if file.toList.contains '\x00' then some (.raised .value "embedded null byte")
  else if isDirectory file then some (.raised .system (file ++ ": cannot read file data: Is a directory"))
  else if !file.toList.contains '/' && 255 < (Text.Utf8.encode file).length then
    some (.raised .system (file ++ ": cannot open shared object file: File name too long"))
  else some (.notFound file)

def empty : Library := ⟨0,[],false,0⟩

def reported (length : Int) : Int := length.bmod 0x10000000000000000

def block? (library : Library) (buffer : Buffer) : Option Block :=
  buffer.id.bind (fun id => library.blocks.find? (fun block => block.id == id))

def isLive (library : Library) (buffer : Buffer) : Bool := (library.block? buffer).isSome

def content (library : Library) (buffer : Buffer) : List UInt8 :=
  match library.block? buffer with
  | none => []
  | some block => block.content

def live (library : Library) : List Nat := (library.blocks.map Block.id).mergeSort (fun a b => a ≤ b)

def make (library : Library) (size : Nat) (written : List UInt8) (length : Int) : Buffer × Library :=
  let id := library.made + 1
  (⟨some id,reported length⟩,
    { library with made := id,blocks := library.blocks ++ [⟨id,size,written⟩] })

def drop (library : Library) (buffer : Buffer) : Library :=
  { library with blocks := library.blocks.filter (fun block => some block.id != buffer.id) }

def store (library : Library) (buffer : Buffer) (written : List UInt8) : Library :=
  { library with blocks := library.blocks.map (fun block =>
      if some block.id == buffer.id then { block with written := written } else block) }

end Library
end NativeBinding
