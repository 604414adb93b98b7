import NativeBinding.Text.Quoted

namespace NativeBinding

inductive Complaint
  | missingComponent
  | strayText (text : String)
  | duplicateDefinition (name : String)
  | noValues (enumeration : String)
  | invalidValue (value enumeration : String)
  | duplicateValue (value enumeration : String)
  | duplicateField (field record : String)
  | duplicateArgument (argument function : String)
  | duplicateFunction (function : String)
  | malformedField (text : String)
  | invalidType (text : String)
  | unknownType (name : String)
deriving DecidableEq,Repr

def Complaint.message : Complaint → String
  | .missingComponent => "missing namespace declaration"
  | .strayText text => "unexpected text " ++ Text.quote text
  | .duplicateDefinition name => "duplicate definition of " ++ Text.quote name
  | .noValues enumeration => "enum " ++ Text.quote enumeration ++ " has no values"
  | .invalidValue value enumeration =>
    "invalid value " ++ Text.quote value ++ " in enum " ++ Text.quote enumeration
  | .duplicateValue value enumeration =>
    "duplicate value " ++ Text.quote value ++ " in enum " ++ Text.quote enumeration
  | .duplicateField field record =>
    "duplicate field " ++ Text.quote field ++ " in record " ++ Text.quote record
  | .duplicateArgument argument function =>
    "duplicate argument " ++ Text.quote argument ++ " in function " ++ Text.quote function
  | .duplicateFunction function => "duplicate function " ++ Text.quote function
  | .malformedField text => "expected '<type> <name>', got " ++ Text.quote text
  | .invalidType text => "invalid type " ++ Text.quote text
  | .unknownType name => "unknown type " ++ Text.quote name

def located (line : Option Int) (message : String) : String :=
  match line with
  | none => message
  | some line => "line " ++ toString line ++ ": " ++ message

structure SyntaxError where
  complaint : Complaint
  line : Option Nat
deriving DecidableEq,Repr

def SyntaxError.message (error : SyntaxError) : String :=
  located (error.line.map Int.ofNat) error.complaint.message

end NativeBinding
