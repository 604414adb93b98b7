import NativeBinding.Proofs.Wire.Append

namespace NativeBinding.Wire

-- What is written and what is left behind the offset stay within the memory there is.
def Writer.Fits (writer : Writer) : Prop := writer.filled.length + writer.residue.length ≤ writer.size

theorem Writer.fits_ofSize (size : Nat) : (ofSize size).Fits := Nat.zero_le _

theorem Writer.Fits.residue {writer : Writer} (fits : writer.Fits) (full : writer.offset = writer.size) :
    writer.residue = [] := by
  unfold Fits at fits
  unfold offset at full
  exact List.length_eq_zero_iff.mp (by omega)

namespace Write

-- With room for so many bytes an action stays within the memory there is, whether it
-- succeeds or not.
def Within (width : Nat) (action : Write α) : Prop :=
  ∀ writer : Writer, writer.Fits → writer.offset + width ≤ writer.size →
    (reached (action writer)).size = writer.size ∧ (reached (action writer)).Fits

abbrev Keeps (action : Write α) : Prop := Within 0 action

variable {width : Nat}

theorem within_pure (value : α) : Within width (pure value : Write α) := fun _ fits _ => ⟨rfl,fits⟩

theorem within_throw (fault : Fault) : Within width (throw fault : Write α) := fun _ fits _ => ⟨rfl,fits⟩

theorem within_packed {bytes : List UInt8} (length : bytes.length = width) : Within width (packed bytes) := by
  intro writer fits room
  refine ⟨rfl,?_⟩
  simp only [Writer.Fits,Writer.offset,packed,modify_run,reached,Writer.append,List.length_append,List.length_drop] at *
  omega

theorem within_leave {bytes : List UInt8} (length : bytes.length = width) {next : Write α} (after : Within width next) :
    Within width (do modify (fun writer => writer.leave bytes); next) := by
  intro writer fits room
  rw [seq_ok (modify_run _)]
  refine after _ ?_ room
  simp only [Writer.Fits,Writer.offset,Writer.leave,List.length_append,List.length_drop] at *
  omega

theorem Keeps.seq {first : Write α} {next : α → Write β} (one : Keeps first) (two : ∀ value, Keeps (next value)) :
    Keeps (first >>= next) := by
  intro writer fits room
  obtain ⟨size,fits'⟩ := one writer fits room
  cases run : first writer with
  | error fault after =>
    rw [seq_error run]
    rw [run] at size fits'
    exact ⟨size,fits'⟩
  | ok value after =>
    rw [run] at size fits'
    simp only [reached] at size fits'
    have offset : after.offset ≤ after.size := (Nat.le_add_right _ _).trans fits'
    obtain ⟨size',fits⟩ := two value after fits' offset
    rw [seq_ok run]
    exact ⟨size'.trans size,fits⟩

theorem room_short {writer : Writer} (short : writer.size < writer.offset + width) :
    room width writer = .error (.disagreement .overfull) writer := by
  simp only [room]
  rw [seq_ok get_run,if_pos short]
  rfl

theorem place_short {writer : Writer} (short : writer.size < writer.offset + width) :
    place width writer = .error (.disagreement .overfull) writer := seq_error (room_short short)

theorem counted_short {content : Payload} {writer : Writer} (short : writer.size < writer.offset + 4) :
    counted content writer = .error (.disagreement .overfull) writer := by
  have failed : unsigned 4 false (.int content.length) writer = .error (.disagreement .overfull) writer :=
    seq_error (place_short short)
  rw [counted,seq_error failed]

theorem counted_cut {content : Payload} {writer : Writer} (small : content.length < capacity 4) (there : writer.offset + 4 ≤ writer.size)
    (short : writer.size < writer.offset + (4 + content.length)) :
    counted content writer = .error (.disagreement .overfull) (writer.append (wordBytes 4 content.length)) := by
  have word := wordBytes_length 4 content.length
  have first : unsigned 4 false (.int content.length) writer = .ok () (writer.append (wordBytes 4 content.length)) :=
    appends_unsigned (.int content.length) rfl small writer (by rw [word]; exact there)
  have failed : payload content (writer.append (wordBytes 4 content.length)) =
      .error (.disagreement .overfull) (writer.append (wordBytes 4 content.length)) := by
    refine seq_error (room_short ?_)
    rw [Writer.offset_append,Writer.size_append,word]
    omega
  rw [counted,seq_ok first,failed]

theorem counted_large {content : Payload} {writer : Writer} (large : ¬ content.length < capacity 4) (there : writer.offset + 4 ≤ writer.size) :
    counted content writer = .error .unpackable (writer.leave (List.replicate 4 0)) := by
  have beyond : ¬ ((content.length : Int)).toNat < capacity 4 := large
  have failed : unsigned 4 false (.int content.length) writer = .error .unpackable (writer.leave (List.replicate 4 0)) := by
    rw [unsigned,seq_ok (place_ok there)]
    simp only [Value.toInt?,if_neg (show ¬ (content.length : Int) < 0 by omega),if_neg beyond]
    rfl
  rw [counted,seq_error failed]

theorem keeps_room {next : Write Unit} (after : Within width next) : Keeps (do room width; next) := by
  intro writer fits _
  by_cases short : writer.size < writer.offset + width
  · rw [seq_error (room_short short)]
    exact ⟨rfl,fits⟩
  · rw [seq_ok (room_ok (Nat.le_of_not_lt short))]
    exact after writer fits (Nat.le_of_not_lt short)

theorem keeps_place {next : Write Unit} (after : Within width next) : Keeps (do place width; next) := by
  have clear : (do place width; next) = (do room width; modify (fun writer => writer.leave (List.replicate width 0)); next) := by
    simp only [place,bind_assoc]
  rw [clear]
  exact keeps_room (within_leave List.length_replicate after)

theorem keeps_truth (value : Value) : Keeps (truth value) := keeps_room (within_packed rfl)

theorem keeps_unsigned (width : Nat) (late : Bool) (value : Value) : Keeps (unsigned width late value) := by
  refine keeps_place ?_
  cases value.toInt? with
  | none => exact within_throw _
  | some number =>
    dsimp only
    split
    · exact within_throw _
    · split
      · exact within_packed (wordBytes_length _ _)
      · cases late with
        | false => exact within_throw _
        | true => exact within_leave (wordBytes_length _ _) (within_throw _)

theorem keeps_i32 (value : Value) : Keeps (i32 value) := by
  refine keeps_place ?_
  cases value.toInt? with
  | none => exact within_throw _
  | some number =>
    dsimp only
    split
    · exact within_throw _
    · exact within_packed (wordBytes_length _ _)

theorem keeps_single (value : Value) : Keeps (single value) := by
  refine keeps_place ?_
  cases asDouble value with
  | error fault => exact within_throw _
  | ok double =>
    dsimp only
    split
    · exact within_throw _
    · exact within_packed (wordBytes_length _ _)

theorem keeps_double (value : Value) : Keeps (double value) := by
  refine keeps_place ?_
  cases asDouble value with
  | error fault => exact within_throw _
  | ok double => exact within_packed (wordBytes_length _ _)

theorem keeps_payload (content : Payload) : Keeps (payload content) :=
  keeps_room (within_packed content.length_bytes)

theorem keeps_counted (content : Payload) : Keeps (counted content) :=
  (keeps_unsigned 4 false _).seq (fun _ => keeps_payload content)

theorem keeps_bytes (value : Value) : Keeps (bytes value) := by
  unfold bytes
  cases Payload.ofValue value with
  | error fault => exact within_throw _
  | ok content => exact keeps_counted content

theorem keeps_raw (value : Value) : Keeps (raw value) := by
  unfold raw
  cases Payload.ofValue value with
  | error fault => exact within_throw _
  | ok content => exact keeps_payload content

theorem keeps_text (value : Value) : Keeps (text value) := by
  unfold text
  cases textOf value with
  | error fault => exact within_throw _
  | ok text => exact keeps_counted _

theorem finish_run (writer : Writer) : finish writer =
    if writer.offset = writer.size then .ok () writer
    else .error (.disagreement (.wrongFill writer.offset writer.size)) writer := by
  simp only [finish]
  rw [seq_ok get_run]
  by_cases full : writer.offset = writer.size
  · rw [if_neg (by simp [full]),if_pos full]
    rfl
  · rw [if_pos (by simp [full]),if_neg full]
    rfl

theorem keeps_finish : Keeps finish := by
  intro writer fits _
  rw [finish_run]
  split_ifs <;> exact ⟨rfl,fits⟩

end Write
end NativeBinding.Wire
