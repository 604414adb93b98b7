import NativeBinding.Proofs.Sequence
import NativeBinding.Wire.Writer

namespace NativeBinding.Wire

namespace Writer

theorem offset_append (writer : Writer) (bytes : List UInt8) :
    (writer.append bytes).offset = writer.offset + bytes.length := List.length_append

theorem size_append (writer : Writer) (bytes : List UInt8) : (writer.append bytes).size = writer.size := rfl

theorem append_nil (writer : Writer) : writer.append [] = writer := by simp [append]

theorem append_append (writer : Writer) (a b : List UInt8) : (writer.append a).append b = writer.append (a ++ b) := by
  simp [append]

-- What was left behind the offset does not outlast the bytes that are packed over it.
theorem leave_append (writer : Writer) {left bytes : List UInt8} (same : left.length = bytes.length) :
    (writer.leave left).append bytes = writer.append bytes := by
  simp [leave,append,← same]

end Writer

theorem Payload.length_bytes (payload : Payload) : payload.bytes.length = payload.length := by
  cases payload <;> simp [Payload.bytes,Payload.length]

namespace Write

-- An action that does nothing but pack some bytes, wherever there is room for them.
def Appends (action : Write Unit) (bytes : List UInt8) : Prop :=
  ∀ writer : Writer, writer.offset + bytes.length ≤ writer.size → action writer = .ok () (writer.append bytes)

theorem appends_nothing : Appends (pure ()) [] := by
  intro writer _
  rw [Writer.append_nil]
  rfl

theorem Appends.seq {first second : Write Unit} {a b : List UInt8} (one : Appends first a) (two : Appends second b) :
    Appends (do first; second) (a ++ b) := by
  intro writer fits
  rw [List.length_append] at fits
  rw [seq_ok (one writer (by omega)),two _ (by rw [Writer.offset_append,Writer.size_append]; omega),
    Writer.append_append]

theorem room_ok {writer : Writer} {width : Nat} (fits : writer.offset + width ≤ writer.size) :
    room width writer = .ok () writer := by
  simp only [room]
  rw [seq_ok get_run,if_neg (by omega)]
  rfl

theorem place_ok {writer : Writer} {width : Nat} (fits : writer.offset + width ≤ writer.size) :
    place width writer = .ok () (writer.leave (List.replicate width 0)) := by
  simp only [place]
  rw [seq_ok (room_ok fits)]
  rfl

theorem appends_room {bytes : List UInt8} {width : Nat} (length : bytes.length = width) :
    Appends (do room width; packed bytes) bytes := by
  intro writer fits
  rw [seq_ok (room_ok (by omega))]
  rfl

theorem appends_place {bytes : List UInt8} {width : Nat} {next : Write Unit} (length : bytes.length = width)
    (done : next = packed bytes) : Appends (do place width; next) bytes := by
  intro writer fits
  rw [seq_ok (place_ok (by omega)),done]
  change EStateM.Result.ok () ((writer.leave _).append bytes) = _
  rw [Writer.leave_append _ (by simp [length])]

theorem appends_truth (value : Value) : Appends (truth value) [if value.truthy then 1 else 0] := appends_room rfl

theorem appends_unsigned {width number : Nat} {late : Bool} (value : Value) (known : value.toInt? = some (number : Int))
    (small : number < capacity width) : Appends (unsigned width late value) (wordBytes width number) := by
  refine appends_place (wordBytes_length _ _) ?_
  simp [known,small]

theorem appends_i32 {number : Nat} (value : Value) (known : value.toInt? = some (number : Int))
    (small : number < 0x80000000) : Appends (i32 value) (wordBytes 4 number) := by
  refine appends_place (wordBytes_length _ _) ?_
  have bounds : ¬ ((number : Int) < -0x80000000 ∨ 0x80000000 ≤ (number : Int)) := by omega
  simp only [known,Bool.or_eq_true,decide_eq_true_eq,if_neg bounds,signedWord_small small]

theorem appends_single {value : Double} {pattern : Nat} (narrow : value.narrow = some pattern) :
    Appends (single (.float value)) (wordBytes 4 pattern) := by
  refine appends_place (wordBytes_length _ _) ?_
  simp [asDouble,narrow]

theorem appends_double (value : Double) : Appends (double (.float value)) (wordBytes 8 value.pattern) :=
  appends_place (wordBytes_length _ _) (by simp [asDouble])

theorem appends_payload (content : Payload) : Appends (payload content) content.bytes :=
  appends_room content.length_bytes

theorem appends_counted (content : Payload) (small : content.length < capacity 4) :
    Appends (counted content) (wordBytes 4 content.length ++ content.bytes) :=
  (appends_unsigned (.int content.length) rfl small).seq (appends_payload content)

theorem appends_bytes {bytes : List UInt8} (small : bytes.length < capacity 4) :
    Appends (Write.bytes (.bytes bytes)) (wordBytes 4 bytes.length ++ bytes) :=
  appends_counted (.given bytes) small

theorem appends_text {text : String} (small : (Text.Utf8.encode text).length < capacity 4) :
    Appends (Write.text (.text text)) (wordBytes 4 (Text.Utf8.encode text).length ++ Text.Utf8.encode text) :=
  appends_counted (.given (Text.Utf8.encode text)) small

theorem appends_raw (bytes : List UInt8) : Appends (raw (.bytes bytes)) bytes :=
  appends_payload (.given bytes)

theorem finish_full {size : Nat} {bytes : List UInt8} (full : bytes.length = size) :
    finish ((Writer.ofSize size).append bytes) = .ok () ((Writer.ofSize size).append bytes) := by
  simp only [finish]
  rw [seq_ok get_run]
  simp [Writer.offset,Writer.append,Writer.ofSize,full]

end Write
end NativeBinding.Wire
