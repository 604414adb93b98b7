import NativeBinding.Emitted.Codec
import NativeBinding.Emitted.HostType
import NativeBinding.Interface.Model

namespace NativeBinding

structure RecordMember where
  name : String
  hostType : HostType
  size : Expr
  write : Expr
  read : Expr

structure RecordClass where
  name : String
  members : List RecordMember

namespace RecordClass

def lines (cls : RecordClass) : List String :=
  let sizes := cls.members.map (fun member => member.size.text)
  let writes := cls.members.map (fun member => "        " ++ member.write.text)
  let reads := cls.members.map (fun member =>
    "            " ++ member.name ++ "=" ++ member.read.text ++ ",")
  ["@dataclass",
    "class " ++ cls.name ++ ":",
    "    \"\"\"Record " ++ cls.name ++ "\"\"\""] ++
  cls.members.map (fun member => "    " ++ member.name ++ ": " ++ member.hostType.text) ++
  ["",
    "    def _size(self) -> int:",
    "        return " ++ (if sizes.isEmpty then "0" else " + ".intercalate sizes),
    "",
    "    def _write(self, buf: _BufferWriter) -> None:"] ++
  (if writes.isEmpty then ["        pass"] else writes) ++
  ["",
    "    @classmethod",
    "    def _read(cls, buf: _BufferReader) -> " ++ cls.name ++ ":"] ++
  (if reads.isEmpty then ["        return cls()"]
    else "        return cls(" :: reads ++ ["        )"]) ++
  ["",""]

end RecordClass

namespace Record

def fieldItem (record : Record) (field : Field) : String :=
  "record '" ++ record.name ++ "' field '" ++ field.name ++ "'"

def member (field : Field) : Supported RecordMember := do
  let value := Expr.member (.source "self") field.name
  let hostType ← field.type.host
  let size ← field.type.sizing value
  let write ← field.type.writing value (.source "buf")
  let read ← field.type.reading (.source "buf")
  return ⟨field.name,hostType,size,write,read⟩

-- The first field that cannot be declared refuses the record.
def emitted (record : Record) : Supported RecordClass := do
  let members ← record.fields.mapM (fun field =>
    Supported.declaredBy (member field) (record.fieldItem field))
  return ⟨record.name,members⟩

end Record
end NativeBinding
