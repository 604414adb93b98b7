namespace NativeBinding

structure Config where
  moduleName : String
  libraryName : String
  header : String
deriving DecidableEq,Repr

namespace Config

def defaults (component : String) : Config :=
  ⟨component,"uniffi_" ++ component,"DO NOT EDIT - Generated from interface definition"⟩

-- These two name the receivers of the override list itself and are refused
-- even without a value.
def reserved : List String := ["cls","model"]

inductive OverrideError
  | unexpected (key : String)
deriving DecidableEq,Repr

def override (config : Config) (key value : String) : Except OverrideError Config :=
  if key == "module_name" then .ok { config with moduleName := value }
  else if key == "library_name" then .ok { config with libraryName := value }
  else if key == "header" then .ok { config with header := value }
  else .error (.unexpected key)

def apply (config : Config) : List (String × Option String) → Except OverrideError Config
  | [] => .ok config
  | (key,value) :: rest =>
    if reserved.contains key then .error (.unexpected key)
    else match value with
      | none => config.apply rest
      | some value =>
        if value.isEmpty then config.apply rest
        else do
          let next ← config.override key value
          next.apply rest

def forComponent (component : String) (overrides : List (String × Option String)) :
    Except OverrideError Config :=
  (defaults component).apply overrides

end Config
end NativeBinding
