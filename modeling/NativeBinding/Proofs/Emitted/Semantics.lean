import NativeBinding.Emitted.Source
import NativeBinding.Session.Call

namespace NativeBinding
open Wire

-- What emitted expressions come to where every name stands for what it is meant for. What a
-- function has been given goes by its names; the one writer or reader there is goes by buf.
abbrev Locals := List (String × Value)

-- How expressions that are evaluated in a function call functions by name, and the method of
-- whatever record a value is.
structure Routines (α : Type) where
  call : String → Value → α
  method : Value → α

-- Reading starts from names alone.
structure Readers where
  call : String → Read Value
  method : String → Read Value
  ordinal : String → Value → Except Fault Value

namespace Wire

def Write.named : String → Value → Write Unit
  | "write_bool" => Write.truth
  | "write_u32" => Write.u32
  | "write_u64" => Write.u64
  | "write_i32" => Write.i32
  | "write_float" => Write.single
  | "write_double" => Write.double
  | "write_string" => Write.text
  | "write_bytes" => Write.bytes
  | _ => fun _ => throw .missingAttribute

def Read.named : String → Read Value
  | "read_bool" => do return .bool (← Read.truth)
  | "read_u32" => do return .int (← Read.word 4)
  | "read_u64" => do return .int (← Read.word 8)
  | "read_i32" => do return .int (← Read.i32)
  | "read_float" => do return .float (← Read.single)
  | "read_double" => do return .float (← Read.double)
  | "read_string" => do return .text (← Read.text)
  | "read_bytes" => do return .bytes (← Read.bytes)
  | _ => throw .missingAttribute

end Wire

namespace Expr

def value (locals : Locals) : Expr → Except Fault Value
  | .source name =>
    match locals.lookup name with
    | none => .error .undefinedName
    | some found => .ok found
  | .member owner name => do
    let found ← owner.value locals
    found.partOf name
  | _ => .error .wrongKind

def size (routines : Routines (Except Fault Nat)) (locals : Locals) : Expr → Except Fault Nat
  | .number count => .ok count
  | .call (.source name) [argument] => do
    let given ← argument.value locals
    routines.call name given
  | .call (.member owner "_size") [] => do
    let self ← owner.value locals
    routines.method self
  | _ => .error .wrongKind

def write (routines : Routines (Write Unit)) (locals : Locals) : Expr → Write Unit
  | .call (.member owner "_write") [.source "buf"] => do
    let self ← Write.ofResult (owner.value locals)
    routines.method self
  | .call (.member (.source "buf") name) [argument] => do
    let given ← Write.ofResult (argument.value locals)
    Write.named name given
  | .call (.source name) [argument,.source "buf"] => do
    let given ← Write.ofResult (argument.value locals)
    routines.call name given
  | _ => throw .wrongKind

def read (readers : Readers) : Expr → Read Value
  | .call (.member (.source "buf") name) [] => Read.named name
  | .call (.member (.source owner) "_from_ordinal") [argument] => do
    let number ← argument.read readers
    Read.ofResult (readers.ordinal owner number)
  | .call (.member (.source owner) "_read") [.source "buf"] => readers.method owner
  | .call (.source "Some") [argument] => do
    let payload ← argument.read readers
    return .wrapped payload
  | .call (.source name) [.source "buf"] => readers.call name
  | _ => throw .wrongKind

end Expr

-- The classes and helpers that are rendered for a model.
structure Rendered where
  classes : List RecordClass
  helpers : List OptionalHelpers
  ordinal : String → Value → Except Fault Value

def Model.rendered (model : Model) : Supported Rendered := do
  let helpers ← model.optionalHelpers
  return ⟨model.recordClasses.2,helpers,model.fromOrdinal⟩

namespace Rendered
variable (rendered : Rendered)

def class? (name : String) : Option RecordClass := rendered.classes.reverse.find? (fun cls => cls.name == name)

def helpers? (start name : String) : Option OptionalHelpers :=
  rendered.helpers.reverse.find? (fun helpers => start ++ helpers.ident == name)

def sumSizes (size : Expr → Except Fault Nat) : List RecordMember → Except Fault Nat
  | [] => .ok 0
  | member :: rest => do
    let first ← size member.size
    let others ← sumSizes size rest
    return first + others

def classSize (routines : Routines (Except Fault Nat)) (cls : RecordClass) (self : Value) : Except Fault Nat :=
  sumSizes (Expr.size routines [("self",self)]) cls.members

-- What is known of every module comes first. The depth bounds how far calls are nested in
-- each other.
def sizers : Nat → Routines (Except Fault Nat)
  | 0 => ⟨fun _ _ => .error .endless,fun _ => .error .endless⟩
  | depth + 1 => {
    call := fun name value =>
      match name with
      | "_size_string" => value.textSize
      | "_size_bytes" => do
        let length ← value.length
        return 4 + length
      | "_size_raw_bytes" => value.length
      | _ =>
        match rendered.helpers? "_size_" name with
        | none => .error .undefinedName
        | some helpers =>
          match value with
          | .null => .ok 1
          | value => do
            let size ← helpers.size.size (sizers depth) [("value",value)]
            return 1 + size
    method := fun self =>
      match self with
      | .record name _ =>
        match rendered.class? name with
        | none => .error .missingAttribute
        | some cls => classSize (sizers depth) cls self
      | _ => .error .missingAttribute }

def writeAll (write : Expr → Write Unit) : List RecordMember → Write Unit
  | [] => pure ()
  | member :: rest => do
    write member.write
    writeAll write rest

def classWrite (routines : Routines (Write Unit)) (cls : RecordClass) (self : Value) : Write Unit :=
  writeAll (Expr.write routines [("self",self)]) cls.members

def writers : Nat → Routines (Write Unit)
  | 0 => ⟨fun _ _ => throw .endless,fun _ => throw .endless⟩
  | depth + 1 => {
    call := fun name value =>
      match name with
      | "_write_raw_bytes" => Write.raw value
      | _ =>
        match rendered.helpers? "_write_" name with
        | none => throw .undefinedName
        | some helpers =>
          match value with
          | .null => Write.truth (.bool false)
          | value => do
            Write.truth (.bool true)
            helpers.write.write (writers depth) [("value",value)]
    method := fun self =>
      match self with
      | .record name _ =>
        match rendered.class? name with
        | none => throw .missingAttribute
        | some cls => classWrite (writers depth) cls self
      | _ => throw .missingAttribute }

def readAll (read : Expr → Read Value) : List RecordMember → Read (List (String × Value))
  | [] => pure []
  | member :: rest => do
    let first ← read member.read
    let others ← readAll read rest
    return (member.name,first) :: others

def readers : Nat → Readers
  | 0 => ⟨fun _ => throw .endless,fun _ => throw .endless,rendered.ordinal⟩
  | depth + 1 => {
    call := fun name =>
      match name with
      | "_read_raw_bytes" => do return .bytes (← Read.remaining)
      | _ =>
        match rendered.helpers? "_read_" name with
        | none => throw .undefinedName
        | some helpers => do
          let present ← Read.presence
          if present then helpers.read.read (readers depth) else return .null
    method := fun name =>
      match rendered.class? name with
      | none => throw .undefinedName
      | some cls => do
        let fields ← readAll (Expr.read (readers depth)) cls.members
        return .record cls.name fields
    ordinal := rendered.ordinal }

def sizeEntry (depth : Nat) : Expr → Value → Except Fault Nat
  | .source name,value => (rendered.sizers depth).call name value
  | .member (.source name) "_size",value =>
    match rendered.class? name with
    | none => .error .undefinedName
    | some cls => classSize (rendered.sizers depth) cls value
  | _,_ => .error .wrongKind

def writeEntry (depth : Nat) : Expr → Value → Write Unit
  | .source name,value => (rendered.writers depth).call name value
  | .member (.source name) "_write",value =>
    match rendered.class? name with
    | none => throw .undefinedName
    | some cls => classWrite (rendered.writers depth) cls value
  | _,_ => throw .wrongKind

def readEntry (depth : Nat) : Expr → Read Value
  | .source name => (rendered.readers depth).call name
  | .member (.source name) "_read" => (rendered.readers depth).method name
  | _ => throw .wrongKind

end Rendered

namespace Act

def lowerWith (size : Except Fault Nat) (write : Write Unit) : Act Buffer := do
  let size ← ofResult size
  let buffer ← alloc size
  guarding buffer (fill buffer (do write; Write.finish))
  return buffer

def readWhole (read : Read Value) : Read Value := do
  let value ← read
  Read.finish
  return value

def liftWith (read : Read Value) (buffer : Buffer) : Act Value := do
  let value ← guarding buffer (scan buffer (readWhole read))
  free buffer
  return value

def liftStandInWith (read : Read Value) (value : Value) : Act Value := do
  let lifted ← liftStandIn.guardingStandIn value (do
    let content ← ofResult value.bufferContent
    match readWhole read content with
    | .ok lifted _ => return lifted
    | .error fault _ => throw fault)
  freeStandIn value
  return lifted

def liftReturnedWith (read : Read Value) : Returned → Act Value
  | .buffer buffer => liftWith read buffer
  | .value value => liftStandInWith read value
  | .null => liftStandInWith read .null

variable {model : Model} {type : TypeRef}

theorem lowerBuffer_with : lowerBuffer model type value = lowerWith (model.encodedSize type value) (model.encode type value) := rfl

theorem liftReturned_with : liftReturned model type returned = liftReturnedWith (model.decode type) returned := by
  cases returned <;> rfl

end Act

namespace Rendered
variable (rendered : Rendered) (depth : Nat)

def lower (locals : Locals) : Expr → Act Lowered
  | .call (.source "_lower_string") [argument] => do
    let value ← Act.ofResult (argument.value locals)
    let encoded ← Act.ofResult (Act.lowerText value)
    return .value (.bytes encoded)
  | .call (.source "_lower_buffer") [argument,size,write] => do
    let value ← Act.ofResult (argument.value locals)
    let buffer ← Act.lowerWith (rendered.sizeEntry depth size value) (rendered.writeEntry depth write value)
    return .buffer buffer
  | .flag condition => do
    let value ← Act.ofResult (condition.value locals)
    return .value (.int (if value.truthy then 1 else 0))
  | argument => do
    let value ← Act.ofResult (argument.value locals)
    return .value value

def lowerAll (locals : Locals) (held : List Buffer) : List WrapperArgument → Act (List Lowered)
  | [] => return []
  | argument :: rest => fun session =>
    match rendered.lower depth locals argument.lowered session with
    | .error fault after => (do Act.freeAll held; throw fault : Act (List Lowered)) after
    | .ok lowered after => (do
        let others ← lowerAll locals (held ++ lowered.buffer?.toList) rest
        return lowered :: others : Act (List Lowered)) after

def lift (returned : Returned) : Expr → Act Value
  | .source "_retval" => Act.ofResult (Act.scalar returned)
  | .nonzero (.source "_retval") => return Act.liftFlag returned
  | .call (.source "_lift_string") [.source "_retval"] => Act.ofResult (Act.liftText returned)
  | .call (.source "_lift_buffer") [.source "_retval",read] => Act.liftReturnedWith (rendered.readEntry depth read) returned
  | .call (.member (.source name) "_from_ordinal") [.source "_retval"] =>
    Act.ofResult (rendered.ordinal name (Act.ordinalOf returned))
  | _ => throw .wrongKind

def call (wrapper : Wrapper) (values : List Value) (reply : Reply Value) (fails : Bool) : Act Value := do
  if values.length ≠ wrapper.arguments.length then throw .wrongKind
  if !wrapper.holds then Act.needLibrary
  let lowered ← rendered.lowerAll depth (wrapper.parameters.zip values) [] wrapper.arguments
  let returned ← Act.guardingAll (lowered.filterMap Lowered.buffer?) (Act.foreignCall wrapper.symbol lowered reply fails)
  match wrapper.lifted with
  | none => return .null
  | some result => rendered.lift depth returned result

end Rendered
end NativeBinding
