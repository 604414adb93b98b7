import NativeBinding.Script.Show

namespace NativeBinding.Script
open Wire

-- What is made of the body of a class: a class that inherits from others, or one whose
-- numbers become members.
inductive ClassPlan
  | plain (bases : List Obj) (order : List ClassRef)
  | enumeration

namespace Classes

def enumOrder (place : Nat) : List ClassRef := .made place :: BaseType.intEnum.order.map ClassRef.base

def planFrom (call : Caller) (base : Obj) : Run ClassPlan := do
  match base with
  | .thing .alias => return .plain [.type .generic] (BaseType.generic.order.map ClassRef.base)
  | base =>
    match ← base.asClass? with
    | some cls =>
      if cls == .base .intEnum then return .enumeration
      else if ← base.isKind .enumType then Obj.unfit "cannot extend an enumeration"
      else return .plain [base] (← cls.order)
    | none =>
      if ← base.isKind .enum then do
        let _ ← Obj.member call base "__mro__"
        Obj.unfit "not iterable"
      else Obj.unfit "bases must be types"

def plan (call : Caller) (bases : List Obj) : Run ClassPlan := do
  match bases with
  | [] => return .plain [] (BaseType.object.order.map ClassRef.base)
  | [base] => planFrom call base
  | _ => Obj.unfit "too many bases"

def checked (names : Names) : Run Names := do
  if (names.lookup "__slots__").isSome then Obj.unfit "not iterable"
  match names.lookup "__qualname__" with
  | some (.text _) => pure ()
  | none => pure ()
  | some _ => Obj.unfit "type __qualname__ must be a str"
  match names.lookup "__classcell__" with
  | some .nothing => pure ()
  | none => pure ()
  | some _ => Obj.unfit "type.__new__ expected __classcell__ to be a nonlocal cell"
  let kept := (names.drop "__qualname__").drop "__classcell__"
  if (kept.lookup "__eq__").isSome && (kept.lookup "__hash__").isNone then
    return kept.put "__hash__" .nothing
  else return kept

def withParts (bases : List Obj) (names : Names) : Names :=
  let known := names.any (fun row => row.1 == "__dict__")
  let first := if known then names else match bases with
    | [.type (.failure _)] => names
    | _ => names.put "__dict__" (.attributeOf "__dict__")
  if first.any (fun row => row.1 == "__weakref__") then first
  else first.put "__weakref__" (.attributeOf "__weakref__")

def finishPlain (place : Nat) (name : String) (bases : List Obj) (order : List ClassRef) (names : Names) :
    Run PUnit := do
  let kept ← checked names
  Run.replace place (.class ⟨name,bases,.made place :: order,.base .kind,withParts bases kept⟩)

def meaningfulLabels : List String :=
  ["_order_","_generate_next_value_","_numeric_repr_","_missing_","_ignore_","_iter_member_",
    "_iter_member_by_value_","_iter_member_by_def_"]

def isPart : Obj → Bool
  | .classMethod _ => true
  | .slot .. => true
  | .place _ => false
  | _ => false

-- Takes a name into the body of an enumeration: most of them are to become members.
def label (owner : String) (names : Names) (members : List String) (name : String) (value : Obj) :
    Run (Names × List String) := do
  if Text.isPrivateOf owner name then return (names.put name value,members)
  else if Text.isSunder name then
    if name == "_ignore_" then Obj.unfit "not iterable"
    else if meaningfulLabels.contains name then return (names.put name value,members)
    else Run.fail .value ("_sunder_ names, such as " ++ Text.quote name ++ ", are reserved for future Enum use")
  else if Text.isDunder name then
    return (names.put (if name == "__order__" then "_order_" else name) value,members)
  else if members.contains name then Obj.unfit "already defined"
  else if isPart value then return (names.put name value,members)
  else if names.any (fun row => row.1 == name) then Obj.unfit "already defined"
  else return (names.put name value,members ++ [name])

def createMember (call : Caller) (place : Nat) (maker : Option Obj) (lists : Nat × Nat) (name : String)
    (value : Obj) : Run PUnit := do
  let made ← match maker with
    | some maker => call maker [.place place,value] []
    | none => do
      let number := (← value.number?).getD 0
      pure (Obj.place (← Run.keep (.instance (.made place) [] (.number number))))
  match ← Obj.memberOrNone call made "_value_" with
  | some _ => pure ()
  | none => Obj.setMember call made "_value_" (.int ((← value.number?).getD 0))
  Obj.setMember call made "_name_" (.text name)
  Obj.setMember call made "__objclass__" (.place place)
  let begin ← Obj.member call made "__init__"
  let _ ← call begin [value] []
  let before := (← (Obj.place lists.1).listAt?).getD []
  Obj.setMember call made "_sort_order_" (.int before.length)
  Run.replace lists.1 (.list (before ++ [.text name]))
  ClassRef.put place name (if name == "name" || name == "value" then .slot .enum name else made)
  Run.replace lists.2 (.names ((← (Obj.place lists.2).namesAt).put name made))

def finishEnum (call : Caller) (place : Nat) (name : String) (names : Names) (members : List String) :
    Run PUnit := do
  if members.contains "mro" then Run.fail .value "invalid enum member name(s) 'mro'"
  let body := (names.drop "_order_").drop "_ignore_"
  let kept ← checked (body.filter (fun row => !members.contains row.1))
  let list ← Run.keep (.list [])
  let map ← Run.keep (.names [])
  let own := ((kept.put "_member_names_" (.place list)).put "_member_map_" (.place map)).put "_new_member_"
    ((body.lookup "__new__").getD (.slot .int "__new__"))
  Run.replace place (.class ⟨name,[.type .intEnum],enumOrder place,.base .enumType,own⟩)
  for row in body.filter (fun row => members.contains row.1) do
    createMember call place (body.lookup "__new__") (list,map) row.1 row.2
  ClassRef.put place "__new__" (.slot .enum "__new__")
  ClassRef.put place "_value_repr_" (.slot .int "__repr__")
  if (names.lookup "_order_").isSome then Obj.unfit "not iterable"

def finish (call : Caller) (plan : ClassPlan) (place : Nat) (name : String) (names : Names)
    (members : List String) : Run PUnit :=
  match plan with
  | .plain bases order => finishPlain place name bases order names
  | .enumeration => finishEnum call place name names members

-- A member is found by its number, or by asking each of them if nothing can be looked
-- up by what is given.
def numbered (call : Caller) (place : Nat) (value : Obj) : Run (Option Obj) := do
  let members ← Obj.membersOf (.made place)
  let byNumber : Run (Option Obj) := do
    Obj.hashed call Obj.deepest value
    match ← value.quantity? with
    | none => return none
    | some wanted =>
      members.findM? (fun member => do
        return (wanted.order? (.whole ((← member.number?).getD 0))) == some .eq)
  Run.rescue byNumber (fun raised => do
    if ← raised.isKind (.failure .type) then
      members.findM? (fun member => do
        let own ← Obj.member call member "_value_"
        Obj.isEqual call own value)
    else throw raised)

def memberFor (call : Caller) (place : Nat) (value : Obj) : Run Obj := do
  if (← value.classOf) == .made place then return value
  match ← numbered call place value with
  | some found => return found
  | none => do
    let missing : Run (Option Obj) := do
      let search ← Obj.member call (.place place) "_missing_"
      let _ ← call search [value] []
      return none
    let problem ← Run.rescue missing (fun raised => return some raised)
    let shown ← Obj.shown call value
    let name ← ClassRef.name (.made place)
    match problem with
    | some raised => throw raised
    | none => Run.fail .value (shown ++ " is not a valid " ++ name)

structure RecordField where
  name : String
  fallback : Option Obj

-- What a class has under the name of a field stands for what is not given. It must
-- not be something that can change.
def recordField (call : Caller) (place : Nat) (name : String) : Run RecordField := do
  match ← Obj.memberOrNone call (.place place) name with
  | none => return ⟨name,none⟩
  | some fallback => do
    let kind ← Obj.member call fallback "__class__"
    match ← Obj.memberOrNone call kind "__hash__" with
    | some .nothing => do
      let cls ← fallback.classOf
      let shown ← Obj.classText (Obj.ofClass cls) cls
      Run.fail .value ("mutable default " ++ shown ++ " for field " ++ name ++
        " is not allowed: use default_factory")
    | _ => return ⟨name,some fallback⟩

def inOrder : List RecordField → Bool
  | [] => true
  | field :: rest =>
    (field.fallback.isNone || rest.all (fun other => other.fallback.isSome)) && inOrder rest

def beginning (fields : List RecordField) : FunctionInfo :=
  let self := if fields.any (fun field => field.name == "self") then "__dataclass_self__" else "self"
  ⟨"__init__",none,⟨self,none,false⟩ :: fields.map (fun field => ⟨field.name,field.fallback,false⟩),
    self :: fields.map RecordField.name,
    fields.map (fun field => .assign (.member (.name self) field.name) (.name field.name)),none,none⟩

def makeRecord (call : Caller) (frozen : Bool) (place : Nat) (info : ClassInfo) : Run PUnit := do
  ClassRef.put place "__dataclass_params__" (.thing .recordSettings)
  let annotated ← match info.names.lookup "__annotations__" with
    | some names => names.namesAt
    | none => pure []
  let names := annotated.map Prod.fst
  let fields ← names.mapM (fun name => do
    let field ← recordField call place name
    match info.names.lookup "__module__" with
    | some (.text _) => return field
    | _ => Run.fail .attribute "__dict__")
  ClassRef.put place "__dataclass_fields__" (.place (← Run.keep (.names annotated)))
  if !inOrder fields then Obj.unfit "non-default argument follows default argument"
  if names.any Text.keywords.contains then Run.fail .grammar "invalid syntax"
  if names.contains "self" && names.contains "__dataclass_self__" then
    Run.fail .grammar "duplicate argument in function definition"
  if frozen then ClassRef.put place "__init__" (.slot .recordMethods "__init__")
  else ClassRef.put place "__init__" (.place (← Run.keep (.function (beginning fields))))
  ClassRef.put place "__repr__" (.slot .recordMethods "__repr__")
  ClassRef.put place "__eq__" (.slot .recordMethods "__eq__")
  if frozen then do
    ClassRef.put place "__setattr__" (.slot .recordMethods "__setattr__")
    ClassRef.put place "__delattr__" (.slot .recordMethods "__delattr__")
    ClassRef.put place "__hash__" (.slot .recordMethods "__hash__")
  else ClassRef.put place "__hash__" .nothing
  ClassRef.put place "__match_args__" (.tuple (names.map Obj.text))

def asRecord (call : Caller) (frozen : Bool) (object : Obj) : Run Obj := do
  match object with
  | .nothing => return .routine (.makeRecord frozen)
  | .place place =>
    match ← ClassRef.info? place with
    | some info => do
      makeRecord call frozen place info
      return object
    | none => do
      Obj.setMember call object "__dataclass_params__" (.thing .recordSettings)
      Run.fail .attribute "__mro__"
  | _ => Run.fail .attribute "__module__"

end Classes
end NativeBinding.Script
