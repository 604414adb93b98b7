import NativeBinding.Definition.SyntaxError
import NativeBinding.Interface.Model
import NativeBinding.Text.Blank
import NativeBinding.Text.Identifier

namespace NativeBinding.Definition
open Text

abbrev Kinds := List (String × Named)

def plainWords : List (String × Plain) := [
  ("bool",.boolean),("u32",.u32),("u64",.u64),("float",.float),("double",.double),
  ("string",.string),("bytes",.bytes)]

def Kinds.find (kinds : Kinds) (name : String) : Option Named := kinds.lookup name

def baseType (kinds : Kinds) (name : String) : Option TypeRef :=
  match plainWords.lookup name with
  | some which => some (.ofPlain which)
  | none => (kinds.find name).map (fun which => .named which name none)

def layers : Nat → TypeRef → TypeRef
  | 0,type => type
  | count + 1,type => .optionalOf (layers count type)

def typeOf (kinds : Kinds) (text : List Char) : Except Complaint TypeRef :=
  let base := text.takeWhile isWord
  let marks := text.dropWhile isWord
  if base.isEmpty || !marks.all (fun c => c == '?') then .error (.invalidType (String.ofList text))
  else match baseType kinds (String.ofList base) with
    | none => .error (.unknownType (String.ofList base))
    | some type => .ok (layers marks.length type)

def fieldOf (kinds : Kinds) (text : List Char) : Except Complaint Field :=
  match tokens text with
  | [type,name] =>
    if isIdentifier name then (typeOf kinds type).map (fun type => ⟨String.ofList name,type⟩)
    else .error (.malformedField (String.ofList text))
  | _ => .error (.malformedField (String.ofList text))

def parts (separator : Char) (body : List Char) : List (List Char) :=
  ((pieces (fun c => c == separator) body).map trim).filter (fun part => !part.isEmpty)

-- Reads fields in order; a name that is taken already is refused after its type.
def fieldsOf (kinds : Kinds) (taken : String → Complaint) (found : List Field) :
    List (List Char) → Except Complaint (List Field)
  | [] => .ok found
  | part :: rest => do
    let field ← fieldOf kinds part
    if found.any (fun other => other.name == field.name) then .error (taken field.name)
    else fieldsOf kinds taken (found ++ [field]) rest

def checkValues (name : String) (values : List String) : List String → Except Complaint Unit
  | [] => .ok ()
  | value :: rest =>
    if !isIdentifier value.toList then .error (.invalidValue value name)
    else if values.count value > 1 then .error (.duplicateValue value name)
    else checkValues name values rest

def enumerationOf (name : String) (body : List Char) : Except Complaint Enumeration := do
  let values := (parts ',' body).map String.ofList
  if values.isEmpty then .error (.noValues name)
  else do
    checkValues name values values
    return ⟨name,values⟩

def recordOf (kinds : Kinds) (name : String) (body : List Char) : Except Complaint Record := do
  let fields ← fieldsOf kinds (fun field => .duplicateField field name) [] (parts ';' body)
  return ⟨name,fields⟩

def functionOf (kinds : Kinds) (name : String) (parameters : List Char) (returns : Option (List Char)) :
    Except Complaint Function := do
  let arguments ← fieldsOf kinds (fun argument => .duplicateArgument argument name) [] (parts ',' parameters)
  match returns with
  | none => return ⟨name,arguments,none⟩
  | some text => do
    let type ← typeOf kinds text
    return ⟨name,arguments,some type⟩

end NativeBinding.Definition
