import NativeBinding.Interface.Model

namespace NativeBinding.Enumeration

def valueLines (values : List String) (ordinal : Nat) : List String :=
  match values with
  | [] => []
  | value :: rest => ("    " ++ value ++ " = " ++ toString ordinal) :: valueLines rest (ordinal + 1)

def lines (enumeration : Enumeration) : List String :=
  ["class " ++ enumeration.name ++ "(enum.IntEnum):",
    "    \"\"\"Enum " ++ enumeration.name ++ "\"\"\""] ++
  valueLines enumeration.values 1 ++
  ["",
    "    @classmethod",
    "    def _from_ordinal(cls, ordinal: int) -> " ++ enumeration.name ++ ":",
    "        try:",
    "            return cls(ordinal)",
    "        except ValueError:",
    "            raise InternalError(",
    "                f\"invalid ordinal \x7bordinal\x7d for enum " ++ enumeration.name ++
      ", something is very wrong\"",
    "            ) from None",
    "",
    ""]

end NativeBinding.Enumeration
