import NativeBinding.Proofs.Wire.Append

namespace NativeBinding

-- What a value is refused with for being what it is, wherever it is written.
def Fault.IsOwn (fault : Fault) : Prop := fault.kind ∈ [FaultKind.attribute,.type,.packing,.overflow]

instance (fault : Fault) : Decidable fault.IsOwn := inferInstanceAs (Decidable (_ ∈ _))

namespace Wire.Write

-- Wherever there is room for so many bytes, an action packs just as many, or it stops
-- within them because of the value. It never looks for more room than that.
def Measured (size : Nat) (action : Write Unit) : Prop :=
  ∀ writer : Writer, writer.offset + size ≤ writer.size → match action writer with
    | .ok _ after => after.size = writer.size ∧ after.offset = writer.offset + size
    | .error fault after => fault.IsOwn ∧ after.offset ≤ writer.offset + size

variable {size width : Nat}

theorem measured_nothing : Measured 0 (pure ()) := fun _ _ => ⟨rfl,rfl⟩

theorem measured_throw {fault : Fault} (own : fault.IsOwn) : Measured size (throw fault) :=
  fun _ _ => ⟨own,Nat.le_add_right _ _⟩

theorem measured_packed {bytes : List UInt8} (length : bytes.length = size) : Measured size (packed bytes) := by
  intro writer _
  simp only [packed,modify_run]
  exact ⟨rfl,by rw [Writer.offset_append,length]⟩

theorem measured_leave {bytes : List UInt8} {next : Write Unit} (after : Measured size next) :
    Measured size (do modify (fun writer => writer.leave bytes); next) := by
  intro writer room
  rw [seq_ok (modify_run _)]
  exact after (writer.leave bytes) room

theorem measured_room {next : Write Unit} (after : Measured width next) : Measured width (do room width; next) := by
  intro writer fits
  rw [seq_ok (room_ok fits)]
  exact after writer fits

theorem measured_place {next : Write Unit} (after : Measured width next) : Measured width (do place width; next) := by
  intro writer fits
  rw [seq_ok (place_ok fits)]
  exact after (writer.leave _) fits

theorem Measured.seq {first second : Write Unit} {a b : Nat} (one : Measured a first) (two : Measured b second) :
    Measured (a + b) (do first; second) := by
  intro writer fits
  have met := one writer (by omega)
  cases run : first writer with
  | error fault after =>
    rw [run] at met
    rw [seq_error run]
    exact ⟨met.1,by have := met.2; omega⟩
  | ok _ after =>
    rw [run] at met
    obtain ⟨same,reached⟩ := met
    rw [seq_ok run]
    have met := two after (by omega)
    cases run : second after with
    | error fault last =>
      rw [run] at met
      exact ⟨met.1,by have := met.2; omega⟩
    | ok _ last =>
      rw [run] at met
      exact ⟨met.1.trans same,by have := met.2; omega⟩

theorem measured_truth (value : Value) : Measured 1 (truth value) := measured_room (measured_packed rfl)

theorem measured_unsigned (width : Nat) (late : Bool) (value : Value) : Measured width (unsigned width late value) := by
  refine measured_place ?_
  cases value.toInt? with
  | none => exact measured_throw (by decide)
  | some number =>
    dsimp only
    split
    · exact measured_throw (by decide)
    · split
      · exact measured_packed (wordBytes_length _ _)
      · cases late with
        | false => exact measured_throw (by decide)
        | true => exact measured_leave (measured_throw (by decide))

theorem measured_i32 (value : Value) : Measured 4 (i32 value) := by
  refine measured_place ?_
  cases value.toInt? with
  | none => exact measured_throw (by decide)
  | some number =>
    dsimp only
    split
    · exact measured_throw (by decide)
    · exact measured_packed (wordBytes_length _ _)

theorem asDouble_own {value : Value} (failed : asDouble value = .error fault) : fault.IsOwn := by
  unfold asDouble at failed
  split at failed
  · cases failed
  · split at failed
    · cases failed
      decide
    · split at failed
      · cases failed
        decide
      · cases failed

theorem beyondSingle_own (value : Value) : (beyondSingle value).IsOwn := by
  unfold beyondSingle
  split <;> decide

theorem measured_single (value : Value) : Measured 4 (single value) := by
  refine measured_place ?_
  cases known : asDouble value with
  | error fault => exact measured_throw (asDouble_own known)
  | ok double =>
    dsimp only
    split
    · exact measured_throw (beyondSingle_own value)
    · exact measured_packed (wordBytes_length _ _)

theorem measured_double (value : Value) : Measured 8 (double value) := by
  refine measured_place ?_
  cases known : asDouble value with
  | error fault => exact measured_throw (asDouble_own known)
  | ok double => exact measured_packed (wordBytes_length _ _)

theorem measured_payload (content : Payload) : Measured content.length (payload content) :=
  measured_room (measured_packed content.length_bytes)

theorem measured_counted (content : Payload) : Measured (4 + content.length) (counted content) :=
  (measured_unsigned 4 false _).seq (measured_payload content)

end Wire.Write
end NativeBinding
