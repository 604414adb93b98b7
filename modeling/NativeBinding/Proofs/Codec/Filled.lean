import NativeBinding.Codec.Encode
import NativeBinding.Proofs.Interface.Nesting
import NativeBinding.Proofs.Wire.Room

namespace NativeBinding
open Wire

theorem keeps_ofResult (result : Except Fault α) : Write.Keeps (Write.ofResult result) := by
  cases result with
  | ok value => exact Write.within_pure value
  | error fault => exact Write.within_throw fault

theorem keeps_writeBy {nested : Value → Write Unit} (records : ∀ value, Write.Keeps (nested value)) (type : TypeRef)
    (value : Value) : Write.Keeps (type.writeBy nested value) := by
  induction type generalizing value with
  | plain which label aside =>
    cases which with
    | boolean => exact Write.keeps_truth value
    | u32 => exact Write.keeps_unsigned 4 false value
    | u64 => exact Write.keeps_unsigned 8 true value
    | float => exact Write.keeps_single value
    | double => exact Write.keeps_double value
    | string => exact Write.keeps_text value
    | bytes => exact Write.keeps_bytes value
  | named which name aside =>
    cases which with
    | enumeration => exact (keeps_ofResult _).seq Write.keeps_i32
    | record => exact records value
    | object => exact Write.within_throw _
  | optional below label ih =>
    have present : Write.Keeps (do
        Write.truth (.bool true)
        let payload ← Write.ofResult (value.payload below)
        below.writeBy nested payload) :=
      (Write.keeps_truth _).seq (fun _ => (keeps_ofResult _).seq ih)
    cases value with
    | null => exact Write.keeps_truth _
    | _ => exact present

theorem keeps_writeFields {nested : Value → Write Unit} (records : ∀ value, Write.Keeps (nested value)) (owner : Value)
    (fields : List Field) : Write.Keeps (writeFields nested owner fields) := by
  induction fields with
  | nil => exact Write.within_pure ()
  | cons field rest ih =>
    exact ((keeps_ofResult _).seq (keeps_writeBy records field.type)).seq (fun _ => ih)

section
variable (model : Model)

theorem keeps_recordWrite (depth : Nat) (value : Value) : Write.Keeps (model.recordWrite depth value) := by
  induction depth generalizing value with
  | zero => cases value <;> exact Write.within_throw _
  | succ depth ih =>
    cases value with
    | record name fields =>
      simp only [Model.recordWrite]
      split
      · exact Write.within_throw _
      · exact keeps_writeFields ih _ _
    | _ => exact Write.within_throw _

theorem keeps_encode (type : TypeRef) (value : Value) : Write.Keeps (model.encode type value) := by
  have inside : Write.Keeps (type.writeBy (model.recordWrite value.recordDepth) value) :=
    keeps_writeBy (keeps_recordWrite model _) type value
  cases type with
  | plain which label aside =>
    cases which with
    | bytes => exact Write.keeps_raw value
    | _ => exact inside
  | named which name aside =>
    cases which with
    | record =>
      simp only [Model.encode]
      split
      · exact Write.within_throw _
      · exact keeps_writeFields (keeps_recordWrite model _) _ _
    | _ => exact inside
  | optional below label => exact inside

def Model.fillWith (model : Model) (type : TypeRef) (value : Value) (size : Nat) : Except Fault (List UInt8) :=
  match (do model.encode type value; Write.finish : Write Unit) (Writer.ofSize size) with
  | .ok _ writer => .ok writer.filled
  | .error fault _ => .error fault

end

-- A buffer that is filled holds exactly what was written, and nothing else.
theorem finished {model : Model} {size : Nat} {writer : Writer}
    (done : (do model.encode type value; Write.finish : Write Unit) (Writer.ofSize size) = .ok () writer) :
    writer.filled.length = size ∧ writer.residue = [] := by
  obtain ⟨_,after,written,done⟩ := seq_ok_parts done
  have kept := keeps_encode model type value (Writer.ofSize size) (Writer.fits_ofSize size) (Nat.zero_le _)
  rw [written] at kept
  obtain ⟨same,fits⟩ := kept
  simp only [reached,Writer.ofSize] at same fits
  simp only [Write.finish] at done
  rw [seq_ok get_run] at done
  split at done
  · cases done
  · rename_i full
    cases done
    have full : writer.offset = writer.size := by simpa using full
    exact ⟨full.trans same,fits.residue full⟩

end NativeBinding
