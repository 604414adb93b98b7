import NativeBinding.Script.Table
import NativeBinding.Text.Name

namespace NativeBinding.Script
open Wire

namespace Obj

def slotClass (owner : BaseType) (name : String) : BaseType :=
  match owner.slotKind? name with
  | some .part => .getter
  | some .stays => .routine
  | some .ofClass => .routine
  | _ => .slot

def classOf (object : Obj) : Run ClassRef :=
  match object with
  | .nothing => return .base .nothing
  | .unsupported => return .base .unsupported
  | .bool _ => return .base .bool
  | .int _ => return .base .int
  | .float _ => return .base .float
  | .text _ => return .base .text
  | .bytes _ => return .base .bytes
  | .zeros _ => return .base .bytes
  | .tuple _ => return .base .tuple
  | .type which => return .base which.kindOf
  | .place index => do
    match ← Run.cell? index with
    | some (.instance made _ _) => return made
    | some (.class info) => return info.kind
    | some (.function _) => return .base .function
    | some (.names _) => return .base .dict
    | some (.list _) => return .base .list
    | some (.memory _) => return .base .byteArray
    | none => return .base .object
  | .imported _ => return .base .module
  | .routine _ => return .base .routine
  | .slot owner name => return .base (slotClass owner name)
  | .bound (.place _) _ => return .base .method
  | .bound _ _ => return .base .routine
  | .classMethod _ => return .base .classMethod
  | .attributeOf _ => return .base .getter
  | .thing which => return .base which
  | .pointer _ => return .base .pointer
  | .arrayType _ => return .base .arrayType
  | .array .. => return .base .array
  | .buffer .. => return .base .aggregate
  | .library _ => return .base .library
  | .entry _ => return .base .method

def asClass? (object : Obj) : Run (Option ClassRef) :=
  match object with
  | .type which => return some (.base which)
  | .arrayType _ => return some (.base .array)
  | .place index => do
    match ← Run.cell? index with
    | some (.class _) => return some (.made index)
    | _ => return none
  | _ => return none

-- Numbers in the widest sense: truth values and whatever is a number besides its names.
def number? (object : Obj) : Run (Option Int) :=
  match object with
  | .bool value => return some (if value then 1 else 0)
  | .int value => return some value
  | .place index => do
    match ← Run.cell? index with
    | some (.instance _ _ (.number value)) => return some value
    | _ => return none
  | _ => return none

end Obj

namespace ClassRef

def info? (place : Nat) : Run (Option ClassInfo) := do
  match ← Run.cell? place with
  | some (.class info) => return some info
  | _ => return none

def order (cls : ClassRef) : Run (List ClassRef) :=
  match cls with
  | .base which => return which.order.map ClassRef.base
  | .made place => do
    match ← info? place with
    | some info => return info.order
    | none => return [cls]

def name (cls : ClassRef) : Run String :=
  match cls with
  | .base which => return which.name
  | .made place => do
    match ← info? place with
    | some info => return info.name
    | none => return ""

def own? (cls : ClassRef) (name : String) : Run (Option Obj) :=
  match cls with
  | .base which => return which.own? name
  | .made place => do
    match ← info? place with
    | some info => return info.names.lookup name
    | none => return none

def firstOwn (name : String) : List ClassRef → Run (Option Obj)
  | [] => return none
  | cls :: rest => do
    match ← cls.own? name with
    | some found => return some found
    | none => firstOwn name rest

def find? (cls : ClassRef) (name : String) : Run (Option Obj) := do
  firstOwn name (← cls.order)

def inherits (cls other : ClassRef) : Run Bool := do
  return (← cls.order).contains other

def put (place : Nat) (name : String) (object : Obj) : Run PUnit := do
  match ← info? place with
  | some info => Run.replace place (.class { info with names := info.names.put name object })
  | none => return ()

end ClassRef

namespace Obj

def isKind (object : Obj) (which : BaseType) : Run Bool := do
  (← object.classOf).inherits (.base which)

def namesAt (object : Obj) : Run Names :=
  match object with
  | .place index => do
    match ← Run.cell? index with
    | some (.names names) => return names
    | _ => return []
  | _ => return []

def memberMap (cls : ClassRef) : Run Names := do
  match ← cls.find? "_member_map_" with
  | some map => map.namesAt
  | none => return []

def typePart (cls : ClassRef) (name : String) : Run Obj := do
  let (basicSize,listOffset,dictOffset,flags) : Int × Int × Int × Int := match cls with
    | .made _ => (24,16,-48,22032)
    | .base _ => (16,0,0,529664)
  match name with
  | "__name__" => return .text (← cls.name)
  | "__qualname__" => return .text (← cls.name)
  | "__module__" =>
    match ← cls.own? "__module__" with
    | some found => return found
    | none => return .text "builtins"
  | "__doc__" =>
    match ← cls.own? "__doc__" with
    | some found => return found
    | none => return .nothing
  | "__bases__" =>
    match cls with
    | .made index => return .tuple (((← ClassRef.info? index).map ClassInfo.bases).getD [])
    | .base which => return .tuple ((which.order.drop 1).take 1 |>.map Obj.type)
  | "__base__" => return .type .object
  | "__mro__" => return .tuple ((← cls.order).map Obj.ofClass)
  | "__dict__" => return .thing .view
  | "__annotations__" =>
    match ← cls.own? "__annotations__" with
    | some found => return found
    | none => return .thing .dict
  | "__text_signature__" => return .nothing
  | "__itemsize__" => return .int 0
  | "__basicsize__" => return .int basicSize
  | "__weakrefoffset__" => return .int listOffset
  | "__dictoffset__" => return .int dictOffset
  | "__flags__" => return .int flags
  | other => Run.fail .attribute other

def ownName (object : Obj) (name : String) : Run (Option Obj) :=
  match object with
  | .place index => do
    match ← Run.cell? index with
    | some (.instance _ names _) => return names.lookup name
    | _ => return none
  | _ => return none

def functionPart (object : Obj) (name : String) : Run Obj :=
  match object with
  | .place index => do
    match ← Run.cell? index,name with
    | some (.function info),"__name__" => return .text info.name
    | some (.function info),"__qualname__" => return .text info.name
    | some (.function info),"__doc__" => return (info.purpose.map Obj.text).getD .nothing
    | some (.function _),"__closure__" => return .nothing
    | some (.function _),"__defaults__" => return .nothing
    | some (.function _),"__kwdefaults__" => return .nothing
    | _,_ => return .thing .object
  | _ => return .thing .object

def part (object : Obj) (owner : BaseType) (name : String) : Run Obj := do
  match owner,name with
  | .object,_ => return Obj.ofClass (← object.classOf)
  | .kind,_ =>
    match ← object.asClass? with
    | some cls => typePart cls name
    | none => Run.fail .attribute name
  | .int,"imag" => return .int 0
  | .int,"denominator" => return .int 1
  | .int,_ => return .int ((← object.number?).getD 0)
  | .float,"imag" => return .float (.ofPattern 0)
  | .float,_ => return object
  | .enum,"name" => return (← object.ownName "_name_").getD .nothing
  | .enum,"value" => return (← object.ownName "_value_").getD .nothing
  | .aggregate,_ =>
    match object,name with
    | .buffer _ length,"len" => return .int length
    | .buffer address _,_ => return .pointer address
    | _,_ => Run.fail .attribute name
  | .function,_ => functionPart object name
  | .failure .base,"args" =>
    match object with
    | .place index => do
      match ← Run.cell? index with
      | some (.instance _ _ (.arguments given)) => return .tuple given
      | _ => return .tuple []
    | _ => return .tuple []
  | .failure .base,_ => return .nothing
  | _,"__weakref__" => return .nothing
  | _,_ => return .thing .dict

def attributePart (object : Obj) (name : String) : Run Obj :=
  match object,name with
  | .buffer _ length,"len" => return .int length
  | .buffer address _,"data" => return .pointer address
  | _,"__weakref__" => return .nothing
  | _,"__dict__" => return .thing .dict
  | _,other => Run.fail .attribute other

-- Whether something that a class has under a name comes before what an object has
-- itself.
def overrides (kept : Obj) : Run Bool :=
  match kept with
  | .slot owner name => return owner.slotKind? name == some .part
  | .attributeOf _ => return true
  | .place index => do
    match ← Run.cell? index with
    | some (.instance (.made inner) _ _) => do
      let setter ← (ClassRef.made inner).find? "__set__"
      return setter.isSome
    | _ => return false
  | _ => return false

def ownMember (cls : ClassRef) (name : String) : Run Obj := do
  match (← memberMap cls).lookup name with
  | some found => return found
  | none => Run.fail .attribute name

def taken (call : Caller) (kept : Obj) (object : Option Obj) (cls : ClassRef) : Run Obj := do
  match kept with
  | .slot owner name =>
    match owner.slotKind? name,object with
    | some .ofClass,_ => return .bound kept (Obj.ofClass cls)
    | some .method,some object => return .bound kept object
    | some .part,some object => object.part owner name
    | some .part,none =>
      if owner == .enum && (name == "name" || name == "value") then ownMember cls name else return kept
    | _,_ => return kept
  | .classMethod function => return .bound function (Obj.ofClass cls)
  | .attributeOf name =>
    match object with
    | some object => object.attributePart name
    | none => return kept
  | .place index =>
    match ← Run.cell? index with
    | some (.function _) =>
      match object with
      | some object => return .bound kept object
      | none => return kept
    | some (.instance (.made inner) _ _) => do
      match ← (ClassRef.made inner).find? "__get__" with
      | some getter => call getter [kept,object.getD .nothing,Obj.ofClass cls] []
      | none => return kept
    | _ => return kept
  | _ => return kept

def special? (call : Caller) (object : Obj) (name : String) : Run (Option Obj) := do
  let cls ← object.classOf
  match ← cls.find? name with
  | none => return none
  | some kept => return some (← taken call kept (some object) cls)

def classMember? (call : Caller) (object : Obj) (cls : ClassRef) (name : String) : Run (Option Obj) := do
  let kind ← object.classOf
  let above ← kind.find? name
  let first ← match above with
    | some kept => do
      if ← overrides kept then pure (some (← taken call kept (some object) kind)) else pure none
    | none => pure none
  match first with
  | some found => return some found
  | none =>
    match ← cls.find? name with
    | some kept => return some (← taken call kept none cls)
    | none =>
      match above with
      | some kept => return some (← taken call kept (some object) kind)
      | none =>
        if (← kind.inherits (.base .enumType)) && !Text.isDunder name then
          return (← memberMap cls).lookup name
        else return none

def plainMember? (call : Caller) (object : Obj) (name : String) : Run (Option Obj) := do
  let cls ← object.classOf
  let above ← cls.find? name
  let first ← match above with
    | some kept => do
      if ← overrides kept then pure (some (← taken call kept (some object) cls)) else pure none
    | none => pure none
  match first with
  | some found => return some found
  | none =>
    match ← object.ownName name with
    | some found => return some found
    | none =>
      match above with
      | some kept => return some (← taken call kept (some object) cls)
      | none => return none

def entry? (object : Obj) (name : String) : Run (Option Obj) := do
  match object with
  | .imported module => return module.member? name
  | .library .this =>
    let world ← get
    return if world.component.entries.contains name then some (.entry name) else none
  | _ => return none

def generalMember? (call : Caller) (object : Obj) (name : String) : Run (Option Obj) := do
  match ← object.entry? name with
  | some found => return some found
  | none =>
    match ← object.asClass? with
    | some cls => classMember? call object cls name
    | none => plainMember? call object name

def isSlot : Obj → Bool
  | .slot .. => true
  | _ => false

-- A class that the script made may have its own way of looking things up.
def member? (call : Caller) (object : Obj) (name : String) : Run (Option Obj) := do
  let cls ← object.classOf
  let own ← cls.find? "__getattribute__"
  let found ← match own with
    | some looking =>
      if looking.isSlot then generalMember? call object name
      else do pure (some (← call (← taken call looking (some object) cls) [.text name] []))
    | none => generalMember? call object name
  match found with
  | some found => return some found
  | none =>
    match ← cls.find? "__getattr__" with
    | some (.slot ..) => return none
    | some looking => return some (← call (← taken call looking (some object) cls) [.text name] [])
    | none => return none

def member (call : Caller) (object : Obj) (name : String) : Run Obj := do
  match ← member? call object name with
  | some found => return found
  | none => Run.fail .attribute name

def memberOrNone (call : Caller) (object : Obj) (name : String) : Run (Option Obj) :=
  Run.rescue (member? call object name) (fun raised => do
    if ← raised.isKind (.failure .attribute) then return none else throw raised)

def putName (object : Obj) (name : String) (value : Obj) : Run PUnit :=
  match object with
  | .place index => do
    match ← Run.cell? index with
    | some (.instance made names content) => Run.replace index (.instance made (names.put name value) content)
    | _ => Run.fail .attribute name
  | _ => Run.fail .attribute name

def setPlain (call : Caller) (object : Obj) (name : String) (value : Obj) : Run PUnit := do
  let cls ← object.classOf
  match ← cls.find? name with
  | some kept =>
    if ← overrides kept then
      match kept with
      | .slot .object _ => Run.fail .type name
      | .attributeOf "__dict__" => Run.fail .type name
      | .place _ => do
        match ← special? call kept "__set__" with
        | some setter =>
          let _ ← call setter [object,value] []
          return ()
        | none => Run.fail .attribute name
      | _ => Run.fail .attribute name
    else putName object name value
  | none => putName object name value

def setMember (call : Caller) (object : Obj) (name : String) (value : Obj) : Run PUnit := do
  match object with
  | .entry _ => return ()
  | .library _ => return ()
  | .place index =>
    match ← Run.cell? index with
    | some (.class info) =>
      if (info.kind == .base .enumType) && (← memberMap (.made index)).any (fun row => row.1 == name) then
        Run.fail .attribute name
      else ClassRef.put index name value
    | some (.function _) => return ()
    | _ =>
      let cls ← object.classOf
      match ← cls.find? "__setattr__" with
      | some (.slot .recordMethods _) => Run.fail .frozen name
      | some (.slot ..) => setPlain call object name value
      | some setter => do
        let _ ← call (← taken call setter (some object) cls) [.text name,value] []
        return ()
      | none => setPlain call object name value
  | _ => Run.fail .attribute name

end Obj
end NativeBinding.Script
