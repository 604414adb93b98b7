import NativeBinding.Script.Term
import NativeBinding.Session.Ownership

namespace NativeBinding.Script
open Wire

inductive Failure
  | base | failure | lookup | arithmetic
  | attribute | key | index | type | value | unknown | unset | runtime | endless | overflow | memory | system
  | decoding | encoding | packing | argument | grammar | frozen | defect
deriving DecidableEq,Repr

inductive BaseType
  | object | kind | nothing | bool | int | float | text | bytes | byteArray | tuple | list | dict | view
  | unsupported | function | routine | method | slot | getter | classMethod
  | module | environment | lock | logger
  | enumType | enum | shownEnum | intEnum
  | generic | typeVariable | alias | special
  | recordMethods | recordSettings
  | aggregateType | aggregate | simpleType | simple | arrayType | array | pointerType | pointer | library
  | failure (which : Failure)
deriving DecidableEq,Repr

inductive ClassRef
  | base (which : BaseType)
  | made (place : Nat)
deriving DecidableEq,Repr

inductive Import
  | foreign | enumerations | logging | system | layout | host | threading | paths
deriving DecidableEq,Repr

inductive Routine
  | length | layoutSize | layoutPack | layoutUnpack | cast | textAt | pointerTo | loadFile | logger | lock
  | directoryName | absolutePath | joinPaths | pathExists | workingDirectory | record
  | makeRecord (frozen : Bool)
deriving DecidableEq,Repr

-- Everything that a script can get hold of. Objects that can change or that have an
-- identity are kept at a place. A slot is what a class that is always there has under
-- a name. Bytes that are all zero are only counted. Pointers, arrays and buffers know
-- the address of their memory.
inductive Obj
  | nothing
  | unsupported
  | bool (value : Bool)
  | int (value : Int)
  | float (value : Double)
  | text (value : String)
  | bytes (value : List UInt8)
  | zeros (count : Nat)
  | tuple (items : List Obj)
  | type (which : BaseType)
  | place (index : Nat)
  | imported (module : Import)
  | routine (which : Routine)
  | slot (owner : BaseType) (name : String)
  | bound (function owner : Obj)
  | classMethod (function : Obj)
  | attributeOf (name : String)
  | thing (which : BaseType)
  | pointer (address : Nat)
  | arrayType (size : Nat)
  | array (address size : Nat)
  | buffer (address : Nat) (length : Int)
  | library (owner : Owner)
  | entry (symbol : String)

abbrev Names := List (String × Obj)

namespace Names

def put (names : Names) (name : String) (object : Obj) : Names :=
  if names.any (fun row => row.1 == name) then
    names.map (fun row => if row.1 == name then (name,object) else row)
  else names ++ [(name,object)]

def drop (names : Names) (name : String) : Names := names.filter (fun row => row.1 != name)

end Names

structure ClassInfo where
  name : String
  bases : List Obj
  order : List ClassRef
  kind : ClassRef
  names : Names

structure Taken where
  name : String
  fallback : Option Obj
  named : Bool

-- The home of a function is the class that it was defined in, if it refers to that.
structure FunctionInfo where
  name : String
  purpose : Option String
  taken : List Taken
  locals : List String
  body : List Statement
  builtins : Option Obj
  home : Option Nat

inductive Content
  | plain
  | number (value : Int)
  | arguments (given : List Obj)

inductive Cell
  | instance (made : ClassRef) (names : Names) (content : Content)
  | class (info : ClassInfo)
  | function (info : FunctionInfo)
  | names (names : Names)
  | list (items : List Obj)
  | memory (bytes : List UInt8)

structure Component where
  entries : List String
  alloc : String
  free : String

structure World where
  session : Session
  component : Component
  cells : Array Cell
  depth : Nat
  reply : Reply Obj
  fails : Bool

-- What is raised is an object too. It leaves the world as it has become.
abbrev Run (α : Type) := EStateM Obj World α

abbrev Caller := Obj → List Obj → Names → Run Obj

namespace Run

def keep (cell : Cell) : Run Nat := do
  let world ← get
  set { world with cells := world.cells.push cell }
  return world.cells.size

def cell? (place : Nat) : Run (Option Cell) := do
  let world ← get
  return world.cells[place]?

def replace (place : Nat) (cell : Cell) : Run PUnit :=
  modify (fun world => { world with cells := world.cells.setIfInBounds place cell })

def fail (which : Failure) (text : String) : Run α := do
  let place ← keep (.instance (.base (.failure which)) [] (.arguments [.text text]))
  throw (.place place)

def onSession (change : Session → Session) : Run PUnit :=
  modify (fun world => { world with session := change world.session })

def rescue (action : Run α) (handler : Obj → Run α) : Run α := fun world =>
  match action world with
  | .ok value after => .ok value after
  | .error raised after => handler raised after

end Run

namespace Obj

def isSame : Obj → Obj → Bool
  | .nothing,.nothing => true
  | .unsupported,.unsupported => true
  | .bool a,.bool b => a == b
  | .int a,.int b => a == b
  | .float a,.float b => a == b
  | .text a,.text b => a == b
  | .bytes a,.bytes b => a == b
  | .type a,.type b => a == b
  | .place a,.place b => a == b
  | .imported a,.imported b => a == b
  | .routine a,.routine b => a == b
  | .slot a x,.slot b y => a == b && x == y
  | .library a,.library b => a == b
  | .entry a,.entry b => a == b
  | _,_ => false

def ofClass : ClassRef → Obj
  | .base which => .type which
  | .made index => .place index

end Obj
end NativeBinding.Script
