import NativeBinding.Proofs.Definition.Declared
import NativeBinding.Proofs.Definition.Written
import NativeBinding.Proofs.Text.Solid

namespace NativeBinding

def WellNamed (fields : List Field) : Prop :=
  (fields.map Field.name).Nodup ∧ ∀ field ∈ fields, Text.isIdentifier field.name.toList

instance (fields : List Field) : Decidable (WellNamed fields) := instDecidableAnd

namespace TypeRef

instance decidableIsBare : (type : TypeRef) → Decidable type.IsBare
  | .plain _ label aside => inferInstanceAs (Decidable (label = none ∧ aside = none))
  | .named _ _ aside => inferInstanceAs (Decidable (aside = none))
  | .optional below label =>
    have : Decidable below.IsBare := decidableIsBare below
    inferInstanceAs (Decidable (label = none ∧ below.IsBare))

instance decidableIsDeclared {kinds : String → Named → Prop} [known : ∀ name which, Decidable (kinds name which)] :
    (type : TypeRef) → Decidable (type.IsDeclared kinds)
  | .plain .. => .isTrue trivial
  | .named which name _ => known name which
  | .optional below _ => decidableIsDeclared below

end TypeRef

namespace Model

instance decidableDefines (model : Model) (name : String) : (which : Named) → Decidable (model.Defines name which)
  | .enumeration => inferInstanceAs (Decidable ((model.enumeration? name).isSome = true))
  | .record => inferInstanceAs (Decidable ((model.record? name).isSome = true))
  | .object => inferInstanceAs (Decidable (name ∈ model.objects))

def typeNames (model : Model) : List String :=
  model.enumerations.map Enumeration.name ++ model.records.map Record.name ++ model.objects

-- Nothing in the model is ambiguous, and nothing refers to what is not there.
structure WellFormed (model : Model) : Prop where
  distinct : model.typeNames.Nodup
  apart : ∀ name ∈ model.typeNames, name ∉ Definition.plainWords.map Prod.fst
  enumerations : ∀ enumeration ∈ model.enumerations, enumeration.values ≠ [] ∧ enumeration.values.Nodup ∧
    ∀ value ∈ enumeration.values, Text.isIdentifier value.toList
  records : ∀ record ∈ model.records, WellNamed record.fields
  arguments : ∀ function ∈ model.functions, WellNamed function.arguments
  functions : (model.functions.map Function.name).Nodup
  types : ∀ type ∈ model.typeRefs, type.IsBare ∧ type.IsDeclared model.Defines

-- Names that stand in a definition text outside bodies are words there.
structure Worded (model : Model) : Prop where
  component : Text.IsWordText model.component.toList
  types : ∀ name ∈ model.typeNames, Text.IsWordText name.toList
  functions : ∀ function ∈ model.functions, Text.IsWordText function.name.toList

end Model
end NativeBinding
