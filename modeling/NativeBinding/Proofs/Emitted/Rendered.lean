import NativeBinding.Emitted.Declaration
import NativeBinding.Emitted.RecordClass
import NativeBinding.Emitted.Wrapper
import NativeBinding.Proofs.Sequence

namespace NativeBinding

theorem Record.member_parts {field : Field} {item : RecordMember} (done : Record.member field = .ok item) :
    item.name = field.name ∧ field.type.sizing (.member (.source "self") field.name) = .ok item.size ∧
    field.type.writing (.member (.source "self") field.name) (.source "buf") = .ok item.write ∧
    field.type.reading (.source "buf") = .ok item.read := by
  obtain ⟨_,_,done⟩ := result_ok_parts done
  obtain ⟨size,sized,done⟩ := result_ok_parts done
  obtain ⟨write,written,done⟩ := result_ok_parts done
  obtain ⟨read,taken,done⟩ := result_ok_parts done
  cases done
  exact ⟨rfl,sized,written,taken⟩

theorem Record.emitted_parts {record : Record} {cls : RecordClass} (done : record.emitted = .ok cls) :
    cls.name = record.name ∧ List.Forall₂ (fun field item => Record.member field = .ok item) record.fields cls.members := by
  obtain ⟨members,all,done⟩ := result_ok_parts done
  cases done
  exact ⟨rfl,(mapM_ok_parts all).imp fun _ _ one => mapError_ok one⟩

theorem Function.argument_parts {field : Field} {argument : WrapperArgument} (done : Function.argument field = .ok argument) :
    argument.name = field.name ∧ field.type.lower (.source field.name) = .ok argument.lowered ∧
    argument.held = field.type.isBuffer := by
  obtain ⟨_,_,done⟩ := result_ok_parts done
  obtain ⟨lowered,run,done⟩ := result_ok_parts done
  cases done
  exact ⟨rfl,run,rfl⟩

theorem Function.result_parts {returns : Option TypeRef} (done : Function.result returns = .ok (host,lifted)) :
    Option.Rel (fun type expr => type.lift (.source "_retval") = .ok expr) returns lifted := by
  obtain ⟨_,_,done⟩ := result_ok_parts done
  cases returns with
  | none => cases done; exact .none
  | some type =>
    obtain ⟨expr,run,done⟩ := result_ok_parts done
    cases done
    exact .some run

theorem Model.wrapper_made {model : Model} {function : Function} {wrapper : Wrapper}
    (done : model.wrapper function = .ok wrapper) : wrapper.name = function.name ∧ wrapper.symbol = (model.foreignFunction function).symbol ∧
    List.Forall₂ (fun field argument => Function.argument field = .ok argument) function.arguments wrapper.arguments ∧
    Option.Rel (fun type expr => type.lift (.source "_retval") = .ok expr) function.returns wrapper.lifted := by
  obtain ⟨arguments,all,done⟩ := result_ok_parts done
  obtain ⟨⟨host,lifted⟩,result,done⟩ := result_ok_parts done
  cases done
  exact ⟨rfl,rfl,(mapM_ok_parts all).imp fun _ _ one => mapError_ok one,Function.result_parts (mapError_ok result)⟩

theorem ForeignFunction.declaration_parts {entry : ForeignFunction} {declared : Declaration}
    (done : entry.declaration = .ok declared) : declared.symbol = entry.symbol ∧
    List.Forall₂ (fun field foreign => field.type.foreign = .ok foreign) entry.arguments declared.arguments ∧
    TypeRef.foreignResult entry.returns = .ok declared.result := by
  obtain ⟨arguments,all,done⟩ := result_ok_parts done
  obtain ⟨result,run,done⟩ := result_ok_parts done
  cases done
  exact ⟨rfl,(mapM_ok_parts all).imp fun _ _ one => mapError_ok one,mapError_ok run⟩

end NativeBinding
