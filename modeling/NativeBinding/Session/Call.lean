import NativeBinding.Emitted.ForeignType
import NativeBinding.Session.StandIn

namespace NativeBinding
open Wire

inductive Lowered
  | value (value : Value)
  | buffer (buffer : Buffer)

def Lowered.buffer? : Lowered → Option Buffer
  | .value _ => none
  | .buffer lowered => some lowered

namespace Act

-- The component cannot tell where a text with a zero character ends.
def lowerText (value : Value) : Except Fault (List UInt8) := do
  let text ← textOf value
  let encoded := Text.Utf8.encode text
  if encoded.contains 0 then .error .nulCharacter else .ok encoded

def liftText : Returned → Except Fault Value
  | .null => .error (.disagreement .nullText)
  | .value .null => .error (.disagreement .nullText)
  | .value (.bytes encoded) =>
    match Text.Utf8.decode encoded with
    | none => .error .invalidText
    | some text => .ok (.text text)
  | .value value => .error (if (value.part "decode").isSome then .wrongKind else .missingAttribute)
  | .buffer _ => .error .missingAttribute

def lower (model : Model) (type : TypeRef) (value : Value) : Act Lowered :=
  match type with
  | .plain .u32 .. => return .value value
  | .plain .u64 .. => return .value value
  | .plain .float .. => return .value value
  | .plain .double .. => return .value value
  | .plain .boolean .. => return .value (.int (if value.truthy then 1 else 0))
  | .plain .string .. => do
    let encoded ← ofResult (lowerText value)
    return .value (.bytes encoded)
  | .named .enumeration .. => do
    let ordinal ← ofResult (value.partOf "value")
    return .value ordinal
  | type => do
    let buffer ← lowerBuffer model type value
    return .buffer buffer

def freeAll : List Buffer → Act Unit
  | [] => pure ()
  | buffer :: rest => do
    freeQuietly buffer
    freeAll rest

-- Lowers arguments in declared order. If one of them fails, the buffers of
-- those before it are released in the order in which they were made.
def lowerAll (model : Model) (held : List Buffer) : List (Field × Value) → Act (List Lowered)
  | [] => return []
  | (field,value) :: rest => fun session =>
    match lower model field.type value session with
    | .error fault after => (do freeAll held; throw fault : Act (List Lowered)) after
    | .ok lowered after => (do
        let others ← lowerAll model (held ++ lowered.buffer?.toList) rest
        return lowered :: others : Act (List Lowered)) after

def passed (library : Library) : Lowered → Passed
  | .value value => .value value
  | .buffer buffer =>
    .buffer (if library.isLive buffer then buffer.id else none) (library.content buffer)

def answer (reply : Reply Value) (echoed : Option (List UInt8)) : Act Returned := do
  let session ← get
  match reply with
  | .null => return .null
  | .value value => return .value value
  | .echo =>
    match echoed with
    | some content => fresh session content content.length
    | none => throw .wrongKind
  | .fresh content length => fresh session content (length.getD content.length)
  | .noData length => return .buffer ⟨none,Library.reported length⟩
where
  fresh (session : Session) (content : List UInt8) (length : Int) : Act Returned := do
    let (buffer,library) := session.library.make content.length content length
    onLibrary (fun _ => library)
    return .buffer buffer

-- What the component does when it is called. It owns its buffer arguments once it
-- returns.
def respond (symbol : String) (arguments : List Lowered) (reply : Reply Value) (fails : Bool) :
    Act Returned := do
  let session ← get
  let buffers := arguments.filterMap Lowered.buffer?
  emit (.call symbol (arguments.map (passed session.library)))
  if fails then throw .callFailed
  else do
    let echoed := buffers.head?.map session.library.content
    onLibrary (fun library => buffers.foldl Library.drop library)
    answer reply echoed

def foreignCall (symbol : String) (arguments : List Lowered) (reply : Reply Value) (fails : Bool) :
    Act Returned := do
  needLibrary
  respond symbol arguments reply fails

def guardingAll (buffers : List Buffer) (action : Act α) : Act α := fun session =>
  match action session with
  | .ok value after => .ok value after
  | .error fault after => (do freeAll buffers; throw fault : Act α) after

def scalar : Returned → Except Fault Value
  | .null => .ok .null
  | .value value => .ok value
  | .buffer _ => .error .wrongKind

def liftFlag : Returned → Value
  | .value value => .bool (!value.isZero)
  | _ => .bool true

def ordinalOf : Returned → Value
  | .null => .null
  | .value value => value
  | .buffer _ => .thing

def liftReturned (model : Model) (type : TypeRef) : Returned → Act Value
  | .buffer buffer => liftBuffer model type buffer
  | .value value => liftStandIn model type value
  | .null => liftStandIn model type .null

def lift (model : Model) (type : TypeRef) (returned : Returned) : Act Value :=
  match type with
  | .plain .u32 .. => ofResult (scalar returned)
  | .plain .u64 .. => ofResult (scalar returned)
  | .plain .float .. => ofResult (scalar returned)
  | .plain .double .. => ofResult (scalar returned)
  | .plain .boolean .. => return liftFlag returned
  | .plain .string .. => ofResult (liftText returned)
  | .named .enumeration name _ => ofResult (model.fromOrdinal name (ordinalOf returned))
  | type => liftReturned model type returned

-- Calls the public function: lower, call once, lift. Without buffer arguments the
-- library is asked for before the arguments are looked at.
def call (model : Model) (function : Function) (values : List Value) (reply : Reply Value) (fails : Bool) :
    Act Value := do
  if values.length ≠ function.arguments.length then throw .wrongKind
  if !function.arguments.any (fun field => field.type.isBuffer) then needLibrary
  let lowered ← lowerAll model [] (function.arguments.zip values)
  let returned ← guardingAll (lowered.filterMap Lowered.buffer?)
    (foreignCall (model.symbol function.name) lowered reply fails)
  match function.returns with
  | none => return .null
  | some type => lift model type returned

end Act
end NativeBinding
