import NativeBinding.Definition.Read

namespace NativeBinding

def Plain.keyword : Plain → String
  | .boolean => "bool"
  | .u32 => "u32"
  | .u64 => "u64"
  | .float => "float"
  | .double => "double"
  | .string => "string"
  | .bytes => "bytes"

-- What keeps a reference apart from others of the same meaning is not written.
def TypeRef.written : TypeRef → List Char
  | .plain which .. => which.keyword.toList
  | .named _ name _ => name.toList
  | .optional below _ => below.written ++ ['?']

def Field.written (field : Field) : List Char := field.type.written ++ ' ' :: field.name.toList

namespace Definition

def Block.keyword : Named → List Char
  | .enumeration => "enum".toList
  | .record => "record".toList
  | .object => "object".toList

def Block.written (block : Block) : List Char :=
  Block.keyword block.kind ++ ' ' :: block.name ++ [' ','\x7b'] ++ block.body ++ ['\x7d',';']

def Signature.result (signature : Signature) : List Char :=
  match signature.returns with
  | none => []
  | some type => " -> ".toList ++ type

def Signature.written (signature : Signature) : List Char :=
  "fn ".toList ++ signature.name ++ ['('] ++ signature.parameters ++ [')'] ++ signature.result ++ [';']

def listed (texts : List (List Char)) : List Char := [',',' '].intercalate texts

inductive Entry
  | item (item : Item)
  | function (function : Function)

def Item.block : Item → Block
  | .enumeration found => ⟨.enumeration,found.name.toList,' ' :: listed (found.values.map String.toList) ++ [' ']⟩
  | .record found => ⟨.record,found.name.toList,' ' :: found.fields.flatMap (fun field => field.written ++ [';',' '])⟩
  | .object name => ⟨.object,name.toList,[]⟩

def signatureOf (function : Function) : Signature :=
  ⟨function.name.toList,listed (function.arguments.map Field.written),function.returns.map TypeRef.written⟩

namespace Entry

def written : Entry → List Char
  | .item found => found.block.written
  | .function found => (signatureOf found).written

def item? : Entry → Option Item
  | .item found => some found
  | .function _ => none

def function? : Entry → Option Function
  | .item _ => none
  | .function found => some found

end Entry

def clause (component : String) : List Char := "namespace ".toList ++ component.toList ++ [';']

-- Definitions follow the name of the component, with the same gap in front of each.
def written (gap : List Char) (component : String) (entries : List Entry) : List Char :=
  clause component ++ entries.flatMap (fun entry => gap ++ entry.written)

def modelOf (component : String) (entries : List Entry) : Model :=
  let items := entries.filterMap Entry.item?
  ⟨component,items.filterMap Item.enumeration?,items.filterMap Item.record?,entries.filterMap Entry.function?,
    items.filterMap Item.object?⟩

example : written ['\n'] "geo" [
    .item (.enumeration ⟨"Shade",["dark","light"]⟩),
    .function ⟨"turn",[⟨"label",.ofPlain .string⟩,⟨"node",.recordOf "Node"⟩],some (.optionalOf (.ofPlain .float))⟩,
    .item (.record ⟨"Node",[⟨"weight",.optionalOf (.ofPlain .float)⟩,⟨"shade",.enumOf "Shade"⟩]⟩),
    .item (.object "Canvas"),.function ⟨"reset",[],none⟩] =
    ("namespace geo;\nenum Shade \x7b dark, light \x7d;\nfn turn(string label, Node node) -> float?;\n" ++
      "record Node \x7b float? weight; Shade shade; \x7d;\nobject Canvas \x7b\x7d;\nfn reset();").toList := by decide +kernel

end Definition

namespace TypeRef

def IsBare : TypeRef → Prop
  | .plain _ label aside => label = none ∧ aside = none
  | .named _ _ aside => aside = none
  | .optional below label => label = none ∧ below.IsBare

end TypeRef
end NativeBinding
