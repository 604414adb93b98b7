import NativeBinding.Proofs.Codec.Encode
import NativeBinding.Proofs.Session.Lowering
import NativeBinding.Proofs.Wire.Measured

namespace NativeBinding
open Wire

theorem Value.partOf_own {value : Value} (failed : value.partOf name = .error fault) : fault.IsOwn := by
  unfold partOf at failed
  split at failed
  · cases failed
    decide
  · cases failed

theorem Value.payload_own {value : Value} (failed : value.payload below = .error fault) : fault.IsOwn := by
  unfold payload at failed
  split at failed
  · exact partOf_own failed
  · cases failed

namespace Wire.Write

theorem measured_result {result : Except Fault α} {next : α → Write Unit} (lost : ∀ fault, result = .error fault → fault.IsOwn)
    (met : ∀ value, result = .ok value → Measured size (next value)) : Measured size (do next (← ofResult result)) := by
  cases result with
  | error fault => exact measured_throw (lost fault rfl)
  | ok value => exact met value rfl

-- A text is as long as it counts itself, but where bytes are written it is refused
-- before any of them is.
theorem measured_raw {value : Value} (sized : value.length = .ok size) : Measured size (raw value) := by
  cases value with
  | text text => exact measured_throw (by decide)
  | bytes content =>
    cases sized
    exact measured_payload (.given content)
  | _ => cases sized

theorem measured_bytes {value : Value} (sized : value.length = .ok size) : Measured (4 + size) (bytes value) := by
  cases value with
  | text text => exact measured_throw (by decide)
  | bytes content =>
    cases sized
    exact measured_counted (.given content)
  | _ => cases sized

theorem measured_text {value : Value} (sized : value.textSize = .ok size) : Measured size (text value) := by
  obtain ⟨text,known,sized⟩ := result_ok_parts sized
  cases sized
  simp only [Write.text,known]
  exact measured_counted (.given (Text.Utf8.encode text))

end Wire.Write

open Wire.Write

section
variable {sizes : Value → Except Fault Nat} {writes : Value → Write Unit}
  (records : ∀ value size, sizes value = .ok size → Measured size (writes value))
include records

theorem measured_writeBy (type : TypeRef) (value : Value)
    (sized : type.sizeBy sizes value = .ok size) : Measured size (type.writeBy writes value) := by
  induction type generalizing value size with
  | plain which label aside =>
    cases which with
    | boolean => cases sized; exact measured_truth value
    | u32 => cases sized; exact measured_unsigned 4 false value
    | u64 => cases sized; exact measured_unsigned 8 true value
    | float => cases sized; exact measured_single value
    | double => cases sized; exact measured_double value
    | string => exact measured_text sized
    | bytes =>
      obtain ⟨length,known,sized⟩ := result_ok_parts sized
      cases sized
      exact measured_bytes known
  | named which name aside =>
    cases which with
    | enumeration =>
      cases sized
      exact measured_result (fun _ => Value.partOf_own) (fun ordinal _ => measured_i32 ordinal)
    | record => exact records value size sized
    | object => cases sized
  | optional below label ih =>
    by_cases absent : value = .null
    · subst absent
      cases sized
      exact measured_truth (.bool false)
    · rw [TypeRef.sizeBy_present absent] at sized
      obtain ⟨payload,known,sized⟩ := result_ok_parts sized
      obtain ⟨inside,below,sized⟩ := result_ok_parts sized
      cases sized
      rw [TypeRef.writeBy_present absent]
      refine (measured_truth _).seq (measured_result (fun _ => Value.payload_own) ?_)
      intro other same
      cases known.symm.trans same
      exact ih payload below

theorem measured_field (field : Field) (owner : Value) (sized : field.sizeBy sizes owner = .ok size) :
    Measured size (field.writeBy writes owner) := by
  refine measured_result (fun _ => Value.partOf_own) ?_
  intro value known
  refine measured_writeBy records field.type value ?_
  unfold Field.sizeBy at sized
  split at sized
  · rename_i fixed
    cases sized
    exact TypeRef.sizeBy_fixed fixed
  · rw [known] at sized
    exact sized

theorem measured_fields (owner : Value) (fields : List Field) (sized : sizeFields sizes owner fields = .ok size) :
    Measured size (writeFields writes owner fields) := by
  induction fields generalizing size with
  | nil =>
    cases sized
    exact measured_nothing
  | cons field rest ih =>
    obtain ⟨own,one,sized⟩ := result_ok_parts sized
    obtain ⟨others,many,sized⟩ := result_ok_parts sized
    cases sized
    exact (measured_field records field owner one).seq (ih many)

end

section
variable (model : Model)

theorem measured_record (depth : Nat) (value : Value) (size : Nat) (sized : model.recordSize depth value = .ok size) :
    Measured size (model.recordWrite depth value) := by
  induction depth generalizing value size with
  | zero => cases value <;> cases sized
  | succ depth ih =>
    cases value with
    | record name fields =>
      simp only [Model.recordSize] at sized
      simp only [Model.recordWrite]
      cases found : model.record? name with
      | none => rw [found] at sized; cases sized
      | some record =>
        rw [found] at sized
        exact measured_fields ih _ _ sized
    | _ => cases sized

theorem measured_encode (type : TypeRef) (value : Value) (sized : model.encodedSize type value = .ok size) :
    Measured size (model.encode type value) := by
  have inside (sized : type.sizeBy (model.recordSize value.recordDepth) value = .ok size) :
      Measured size (type.writeBy (model.recordWrite value.recordDepth) value) :=
    measured_writeBy (measured_record model _) type value sized
  cases type with
  | plain which label aside =>
    cases which with
    | bytes => exact measured_raw sized
    | _ => exact inside sized
  | named which name aside =>
    cases which with
    | record =>
      simp only [Model.encodedSize] at sized
      simp only [Model.encode]
      cases found : model.record? name with
      | none => rw [found] at sized; cases sized
      | some record =>
        rw [found] at sized
        exact measured_fields (measured_record model _) _ _ sized
    | _ => exact inside sized
  | optional below label => exact inside sized

end

-- Faults that would mean that a size was computed wrong.
def Fault.BlamesSize (fault : Fault) : Prop :=
  fault = .disagreement .overfull ∨ ∃ offset size, fault = .disagreement (.wrongFill offset size)

def Harmless (result : Except Fault α) : Prop := ∀ cause, result ≠ .error (.disagreement cause)

theorem harmless_ok (value : α) : Harmless (.ok value : Except Fault α) := nofun

theorem harmless_error {fault : Fault} (other : fault.kind ≠ .disagreement) : Harmless (.error fault : Except Fault α) := by
  rintro cause ⟨⟩
  exact other rfl

theorem Harmless.seq {first : Except Fault α} {next : α → Except Fault β} (one : Harmless first)
    (two : ∀ value, Harmless (next value)) : Harmless (first >>= next) := by
  cases first with
  | ok value => exact two value
  | error fault =>
    rintro cause ⟨⟩
    exact one cause rfl

theorem harmless_own {result : Except Fault α} (own : ∀ fault, result = .error fault → fault.IsOwn) : Harmless result := by
  intro cause failed
  have own := own _ failed
  simp [Fault.IsOwn,Fault.kind] at own

theorem harmless_textSize (value : Value) : Harmless value.textSize := by
  refine Harmless.seq ?_ (fun _ => harmless_ok _)
  unfold textOf
  split
  · exact harmless_ok _
  · split <;> exact harmless_error (by decide)

theorem harmless_length (value : Value) : Harmless value.length := by
  unfold Value.length
  split
  · exact harmless_ok _
  · exact harmless_ok _
  · exact harmless_error (by decide)

section
variable {sizes : Value → Except Fault Nat} (records : ∀ value, Harmless (sizes value))
include records

theorem harmless_sizeBy (type : TypeRef) (value : Value) : Harmless (type.sizeBy sizes value) := by
  induction type generalizing value with
  | plain which label aside =>
    cases which with
    | string => exact harmless_textSize value
    | bytes => exact (harmless_length value).seq (fun _ => harmless_ok _)
    | _ => exact harmless_ok _
  | named which name aside =>
    cases which with
    | enumeration => exact harmless_ok _
    | record => exact records value
    | object => exact harmless_error (by simp [Fault.kind])
  | optional below label ih =>
    by_cases absent : value = .null
    · subst absent
      exact harmless_ok _
    · rw [TypeRef.sizeBy_present absent]
      exact (harmless_own (fun _ => Value.payload_own)).seq (fun _ => (ih _).seq (fun _ => harmless_ok _))

theorem harmless_fields (owner : Value) (fields : List Field) : Harmless (sizeFields sizes owner fields) := by
  induction fields with
  | nil => exact harmless_ok _
  | cons field rest ih =>
    refine Harmless.seq ?_ (fun _ => ih.seq (fun _ => harmless_ok _))
    unfold Field.sizeBy
    split
    · exact harmless_ok _
    · exact (harmless_own (fun _ => Value.partOf_own)).seq (harmless_sizeBy records field.type)

end

section
variable (model : Model)

theorem harmless_record (depth : Nat) (value : Value) : Harmless (model.recordSize depth value) := by
  induction depth generalizing value with
  | zero => cases value <;> exact harmless_error (by decide)
  | succ depth ih =>
    cases value with
    | record name fields =>
      simp only [Model.recordSize]
      split
      · exact harmless_error (by decide)
      · exact harmless_fields ih _ _
    | _ => exact harmless_error (by decide)

theorem harmless_size (type : TypeRef) (value : Value) : Harmless (model.encodedSize type value) := by
  have inside := harmless_sizeBy (harmless_record model value.recordDepth) type value
  cases type with
  | plain which label aside =>
    cases which with
    | bytes => exact harmless_length value
    | _ => exact inside
  | named which name aside =>
    cases which with
    | record =>
      simp only [Model.encodedSize]
      split
      · exact harmless_error (by decide)
      · exact harmless_fields (harmless_record model _) _ _
    | _ => exact inside
  | optional below label => exact inside

end
end NativeBinding
