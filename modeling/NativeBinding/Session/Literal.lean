import NativeBinding.Fault
import NativeBinding.Value

namespace NativeBinding

-- A value as it is asked for. Records are built by position from what is given
-- for their fields.
inductive Literal
  | value (value : Value)
  | member (enumeration label : String)
  | wrapped (payload : Literal)
  | record (name : String) (values : List Literal)

def Record.built (record : Record) (values : List Value) : Except Fault Value :=
  if values.length = record.fields.length then
    .ok (.record record.name ((record.fields.map Field.name).zip values))
  else .error .wrongKind

namespace Literal

mutual
def build (model : Model) : Literal → Except Fault Value
  | .value data => .ok data
  | .member enumeration label =>
    match model.enumeration? enumeration with
    | none => .error .missingAttribute
    | some found =>
      match found.roster.named? label with
      | none => .error .missingKey
      | some found => .ok found
  | .wrapped payload => do
    let value ← build model payload
    return .wrapped value
  | .record name values =>
    match model.record? name with
    | none => .error .missingAttribute
    | some found => do
      let built ← buildAll model values
      found.built built

def buildAll (model : Model) : List Literal → Except Fault (List Value)
  | [] => .ok []
  | literal :: rest => do
    let value ← build model literal
    let others ← buildAll model rest
    return value :: others
end

end Literal
end NativeBinding
