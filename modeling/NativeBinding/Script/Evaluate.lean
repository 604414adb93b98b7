import NativeBinding.Emitted.Names
import NativeBinding.Script.Native
import NativeBinding.Script.Scope

namespace NativeBinding.Script

-- Where names are put: those of the module, of the body of a class, of the body of an
-- enumeration, which knows its members, or of a function that is running.
inductive FrameKind
  | module
  | body
  | labels (owner : String) (members : Nat)
  | function
deriving DecidableEq,Repr

-- What a statement sees. Its own names are kept at a place. The class that it stands
-- in and the failure that is being handled are known by their objects.
structure Frame where
  kind : FrameKind
  place : Nat
  locals : List String
  builtins : Option Obj
  home : Option Nat
  handled : Option Obj

inductive Flow
  | next
  | given (value : Obj)

namespace Frame

def globals : Nat := 0

def namesOf (place : Nat) : Run Names := (Obj.place place).namesAt

def everywhere? (name : String) : Option Obj :=
  match Script.everywhere? name with
  | some found => some found
  | none => if builtinNames.contains name then some (.thing .routine) else none

def unknown (name : String) : Run α := Run.fail .unknown ("name " ++ Text.quote name ++ " is not defined")

-- What is known everywhere may have been put in another place, where only an
-- enumeration can be asked.
def beyond (frame : Frame) (name : String) : Run Obj := do
  match frame.builtins with
  | none =>
    match everywhere? name with
    | some found => return found
    | none => unknown name
  | some place =>
    if ← place.isEnumeration then do
      match ← place.asClass? with
      | some cls =>
        match (← Obj.memberMap cls).lookup name with
        | some found => return found
        | none => unknown name
      | none => unknown name
    else Obj.unfit "object is not subscriptable"

def global (frame : Frame) (name : String) : Run Obj := do
  match (← namesOf globals).lookup name with
  | some found => return found
  | none => frame.beyond name

def lookUp (frame : Frame) (name : String) : Run Obj := do
  match frame.kind with
  | .module => frame.global name
  | .function =>
    if frame.locals.contains name then do
      match (← namesOf frame.place).lookup name with
      | some found => return found
      | none => Run.fail .unset ("cannot access local variable " ++ Text.quote name)
    else match name,frame.home with
      | "__class__",some home => return .place home
      | _,_ => frame.global name
  | _ => do
    match (← namesOf frame.place).lookup name with
    | some found => return found
    | none => frame.global name

def putAt (place : Nat) (name : String) (value : Obj) : Run PUnit := do
  Run.replace place (.names ((← namesOf place).put name value))

def put (frame : Frame) (name : String) (value : Obj) : Run PUnit := do
  match frame.kind with
  | .function =>
    if frame.locals.contains name then putAt frame.place name value else putAt globals name value
  | .labels owner members => do
    let known := (← (Obj.place members).listAt?).getD []
    let labels := known.filterMap (fun item =>
      match item with
      | .text label => some label
      | _ => none)
    let (names,after) ← Classes.label owner (← namesOf frame.place) labels name value
    Run.replace frame.place (.names names)
    Run.replace members (.list (after.map Obj.text))
  | _ => putAt frame.place name value

-- Functions keep what is known everywhere as it is when they are made.
def current (frame : Frame) : Run (Option Obj) := do
  match (← namesOf globals).lookup "__builtins__" with
  | some (.thing .dict) => return none
  | some other => return some other
  | none => return frame.builtins

end Frame

def sliced (object first : Obj) : Run Obj := do
  match ← object.bytes?,← first.number? with
  | some content,some start =>
    let begin := if start < 0 then start + content.length else start
    return .bytes (content.drop begin.toNat)
  | none,_ => Obj.unfit "object is not subscriptable"
  | _,none => Obj.unfit "slice indices must be integers"

def itemOf (owner index : Obj) : Run Obj := do
  match owner,index with
  | .type .generic,.thing .typeVariable => return .thing .alias
  | .thing .special,_ => return .thing .alias
  | .thing .dict,.text name =>
    match Frame.everywhere? name with
    | some found => return found
    | none => Run.fail .key name
  | owner,index =>
    match ← owner.asClass? with
    | some cls =>
      if ← owner.isEnumeration then
        match index with
        | .text name =>
          match (← Obj.memberMap cls).lookup name with
          | some found => return found
          | none => Run.fail .key name
        | _ => Run.fail .key ""
      else match cls with
        | .made _ =>
          if ← cls.inherits (.base .generic) then return .thing .alias
          else Obj.unfit "object is not subscriptable"
        | .base _ => Obj.unfit "object is not subscriptable"
    | none => Obj.unfit "object is not subscriptable"

namespace Term

-- Owners come before their members, callees before their arguments, and what stands in
-- front before what follows it.
mutual
def evaluate (call : Caller) (frame : Frame) : Term → Run Obj
  | .constant .none => return .nothing
  | .constant (.flag value) => return .bool value
  | .constant .ellipsis => return .thing .object
  | .constant (.int value) => return .int value
  | .constant (.float value) => return .float value
  | .constant (.text value) => return .text value
  | .constant (.bytes value) => return .bytes value
  | .name id => frame.lookUp id
  | .formatted parts => do
    let pieces ← evaluateTexts call frame parts
    return .text (String.join pieces)
  | .member owner id => do
    let object ← owner.evaluate call frame
    Obj.member call object id
  | .call callee arguments => do
    let object ← callee.evaluate call frame
    let (given,named) ← evaluateGiven call frame arguments
    call object given named
  | .keyword _ value => value.evaluate call frame
  | .item owner (.slice first _) => do
    let object ← owner.evaluate call frame
    let start ← first.evaluate call frame
    sliced object start
  | .item owner index => do
    let object ← owner.evaluate call frame
    let position ← index.evaluate call frame
    itemOf object position
  | .slice .. => Obj.unfit "no object"
  | .tuple items => do return .tuple (← evaluateAll call frame items)
  | .list items => do
    let found ← evaluateAll call frame items
    return .place (← Run.keep (.list found))
  | .negative value => do
    let object ← value.evaluate call frame
    object.negated
  | .compute operation left right => do
    let first ← left.evaluate call frame
    let second ← right.evaluate call frame
    Obj.computed call operation first second
  | .compare left relation right => do
    let first ← left.evaluate call frame
    let second ← right.evaluate call frame
    Obj.related call relation first second
  | .both left right => do
    let first ← left.evaluate call frame
    if ← Obj.truth call first then right.evaluate call frame else return first
  | .either left right => do
    let first ← left.evaluate call frame
    if ← Obj.truth call first then return first else right.evaluate call frame
  | .negation value => do
    let object ← value.evaluate call frame
    return .bool !(← Obj.truth call object)
  | .choice test yes no => do
    let object ← test.evaluate call frame
    if ← Obj.truth call object then yes.evaluate call frame else no.evaluate call frame

def evaluateAll (call : Caller) (frame : Frame) : List Term → Run (List Obj)
  | [] => return []
  | first :: rest => do
    let object ← first.evaluate call frame
    let others ← evaluateAll call frame rest
    return object :: others

def evaluateGiven (call : Caller) (frame : Frame) : List Term → Run (List Obj × Names)
  | [] => return ([],[])
  | first :: rest => do
    let object ← first.evaluate call frame
    let (given,named) ← evaluateGiven call frame rest
    match first with
    | .keyword id _ => return (given,(id,object) :: named)
    | _ => return (object :: given,named)

def evaluateTexts (call : Caller) (frame : Frame) : List Term → Run (List String)
  | [] => return []
  | first :: rest => do
    let object ← first.evaluate call frame
    let shown ← Obj.formatted call object
    let others ← evaluateTexts call frame rest
    return shown :: others
end

end Term

mutual
def putInto (call : Caller) (frame : Frame) (value : Obj) : Term → Run PUnit
  | .name id => frame.put id value
  | .member owner id => do
    let object ← owner.evaluate call frame
    Obj.setMember call object id value
  | .tuple items => do
    let parts ← Obj.items call value
    if parts.length ≠ items.length then Run.fail .value "wrong number of values to unpack"
    else putEach call frame parts items
  | .list items => do
    let parts ← Obj.items call value
    if parts.length ≠ items.length then Run.fail .value "wrong number of values to unpack"
    else putEach call frame parts items
  | _ => Obj.unfit "object does not support item assignment"

def putEach (call : Caller) (frame : Frame) : List Obj → List Term → Run PUnit
  | value :: values,target :: targets => do
    putInto call frame value target
    putEach call frame values targets
  | _,_ => return ()
end

def extend (call : Caller) (frame : Frame) (value : Term) : Term → Run PUnit
  | .member owner id => do
    let object ← owner.evaluate call frame
    let before ← Obj.member call object id
    let more ← value.evaluate call frame
    let after ← Obj.computed call .add before more
    Obj.setMember call object id after
  | target => do
    let before ← target.evaluate call frame
    let more ← value.evaluate call frame
    let after ← Obj.computed call .add before more
    putInto call frame after target

def toRaise (call : Caller) (object : Obj) : Run Obj := do
  match ← object.asClass? with
  | some cls =>
    if ← cls.inherits (.base (.failure .base)) then call object [] []
    else Obj.unfit "exceptions must derive from BaseException"
  | none =>
    if ← object.isKind (.failure .base) then return object
    else Obj.unfit "exceptions must derive from BaseException"

def isCaught (raised caught : Obj) : Run Bool := do
  match ← caught.asClass? with
  | some cls =>
    if ← cls.inherits (.base (.failure .base)) then (← raised.classOf).inherits cls
    else Obj.unfit "catching classes that do not inherit from BaseException is not allowed"
  | none => Obj.unfit "catching classes that do not inherit from BaseException is not allowed"

def taken (call : Caller) (frame : Frame) (parameter : Parameter) : Run Taken := do
  match parameter.fallback with
  | none => return ⟨parameter.name,none,parameter.named⟩
  | some term => do
    let fallback ← term.evaluate call frame
    return ⟨parameter.name,some fallback,parameter.named⟩

def decorated (call : Caller) (object : Obj) : List Obj → Run Obj
  | [] => return object
  | first :: rest => do
    let inside ← decorated call object rest
    call first [inside] []

def managing (call : Caller) (object : Obj) (name : String) : Run Obj := do
  match ← Obj.special? call object name with
  | some method => return method
  | none => Obj.unfit "object does not support the context manager protocol"

def annotated (frame : Frame) (name typeText : String) : Run PUnit := do
  let object ← match (← Frame.namesOf frame.place).lookup "__annotations__" with
    | some object => pure object
    | none => do
      let object := Obj.place (← Run.keep (.names []))
      Frame.putAt frame.place "__annotations__" object
      pure object
  match object with
  | .place index => Frame.putAt index name (.text typeText)
  | _ => Obj.unfit "object does not support item assignment"

def inTurn (targets : Obj → Run PUnit) (body : Run Flow) : List Obj → Run Flow
  | [] => return .next
  | first :: rest => do
    targets first
    match ← body with
    | .next => inTurn targets body rest
    | .given value => return .given value

def leaving (call : Caller) (leave : Obj) (body : Run Flow) : Run Flow := do
  let flow ← Run.rescue body (fun raised => do
    let cls ← raised.classOf
    let result ← call leave [Obj.ofClass cls,raised,.thing .object] []
    if ← Obj.truth call result then return .next else throw raised)
  match flow with
  | .next => do
    let _ ← call leave [.nothing,.nothing,.nothing] []
    return .next
  | .given value => do
    let _ ← call leave [.nothing,.nothing,.nothing] []
    return .given value

namespace Statement

def build (call : Caller) (frame : Frame) (name : String) (bases : List Obj) (body : List Statement)
    (run : Frame → Run Flow) : Run Obj := do
  let plan ← Classes.plan call bases
  let place ← Run.keep (.names [])
  let members ← Run.keep (.list [])
  let module ← frame.global "__name__"
  let purpose := match Statement.purpose body with
    | some text => [("__doc__",Obj.text text)]
    | none => []
  let inherited := match plan with
    | .plain .. => []
    | .enumeration => [("_generate_next_value_",Obj.slot .intEnum "_generate_next_value_")]
  let names ← Run.keep (.names (inherited ++ [("__module__",module),("__qualname__",.text name)] ++ purpose))
  let kind := match plan with
    | .plain .. => FrameKind.body
    | .enumeration => .labels name members
  let _ ← run ⟨kind,names,[],← frame.current,some place,none⟩
  let labels := ((← (Obj.place members).listAt?).getD []).filterMap (fun item =>
    match item with
    | .text label => some label
    | _ => none)
  Classes.finish call plan place name (← Frame.namesOf names) labels
  return .place place

mutual
def run (call : Caller) (frame : Frame) : Statement → Run Flow
  | .evaluate value => do
    let _ ← value.evaluate call frame
    return .next
  | .assign target value => do
    let object ← value.evaluate call frame
    putInto call frame object target
    return .next
  | .extend target value => do
    Script.extend call frame value target
    return .next
  | .annotate target typeText value => do
    match value with
    | some term => do
      let object ← term.evaluate call frame
      putInto call frame object target
    | none => pure ()
    match target,frame.kind with
    | .name _,.function => return .next
    | .name id,_ => do
      annotated frame id typeText
      return .next
    | _,_ => return .next
  | .load module => do
    match Import.all.find? (fun known => known.name == module) with
    | some known => frame.put module (.imported known)
    | none => Run.fail .attribute module
    return .next
  | .loadFrom module names => do
    for name in names do
      match Import.taken? module name with
      | some found => frame.put name found
      | none => Run.fail .attribute name
    return .next
  | .function decorators name parameters body => do
    let wraps ← Term.evaluateAll call frame decorators
    let taken ← parameters.mapM (Script.taken call frame)
    let home := if Statement.anyReads "__class__" body then frame.home else none
    let info : FunctionInfo := ⟨name,Statement.purpose body,taken,
      Statement.locals (parameters.map Parameter.name) body,body,← frame.current,home⟩
    let made ← decorated call (.place (← Run.keep (.function info))) wraps
    frame.put name made
    return .next
  | .class decorators name bases body => do
    let wraps ← Term.evaluateAll call frame decorators
    let given ← Term.evaluateAll call frame bases
    let made ← build call frame name given body (fun inside => runAll call inside body)
    let object ← decorated call made wraps
    frame.put name object
    return .next
  | .branch test yes no => do
    let object ← test.evaluate call frame
    if ← Obj.truth call object then runAll call frame yes else runAll call frame no
  | .each target source body => do
    let object ← source.evaluate call frame
    let found ← Obj.items call object
    inTurn (fun item => putInto call frame item target) (runAll call frame body) found
  | .attempt body caught handler =>
    Run.rescue (runAll call frame body) (fun raised => do
      let matching ← match caught with
        | none => pure true
        | some term => do
          let wanted ← term.evaluate call frame
          isCaught raised wanted
      if matching then runAll call { frame with handled := some raised } handler else throw raised)
  | .within manager target body => do
    let object ← manager.evaluate call frame
    let enter ← managing call object "__enter__"
    let leave ← managing call object "__exit__"
    let entered ← call enter [] []
    leaving call leave (do
      match target with
      | some term => putInto call frame entered term
      | none => pure ()
      runAll call frame body)
  | .raise (some term) => do
    let object ← term.evaluate call frame
    throw (← toRaise call object)
  | .raise none =>
    match frame.handled with
    | some raised => throw raised
    | none => Run.fail .runtime "No active exception to reraise"
  | .give (some term) => do
    let object ← term.evaluate call frame
    return .given object
  | .give none => return .given .nothing
  | .shared _ => return .next
  | .pass => return .next

def runAll (call : Caller) (frame : Frame) : List Statement → Run Flow
  | [] => return .next
  | first :: rest => do
    match ← first.run call frame with
    | .next => runAll call frame rest
    | .given value => return .given value
end

end Statement
end NativeBinding.Script
