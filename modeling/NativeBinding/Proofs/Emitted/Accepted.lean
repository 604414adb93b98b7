import NativeBinding.Proofs.Definition.Declared
import NativeBinding.Proofs.Emitted.Refused

namespace NativeBinding

theorem TypeRef.declared_closed {model : Model} {type : TypeRef} (declared : type.IsDeclared model.Defines)
    (fine : ¬ type.core.isObject) : type.isClosed model := by
  induction type with
  | plain => rfl
  | named which name aside =>
    cases which with
    | enumeration => exact declared
    | record => exact declared
    | object => exact absurd rfl fine
  | optional below label ih => exact ih declared fine

namespace Model
variable {model : Model}

theorem generate_ok {config : Config} (done : (model.generate config).result = .ok source) :
    ∀ type ∈ model.typeRefs, ¬ type.core.isObject := by
  refine offences_nil.mp ?_
  by_contra refused
  rw [generate_refused refused] at done
  cases done

-- What a module is made for refers to definitions that are there, and to no object.
theorem generate_closed {config : Config} (done : (model.generate config).result = .ok source)
    (declared : ∀ type ∈ model.typeRefs, type.IsDeclared model.Defines) : ∀ type ∈ model.typeRefs, type.isClosed model := by
  intro type member
  exact TypeRef.declared_closed (declared type member) (generate_ok done type member)

end Model
end NativeBinding
