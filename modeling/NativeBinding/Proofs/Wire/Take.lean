import NativeBinding.Proofs.Sequence
import NativeBinding.Wire.Reader

namespace NativeBinding

-- Faults that bytes made elsewhere can lead to: they are not what was agreed on, or
-- hold a text that is none.
def Fault.IsForeign (fault : Fault) : Prop := fault.kind = .disagreement ∨ fault.kind = .decoding

namespace Wire

theorem capacity_one : capacity 1 = 256 := by decide

theorem wordBytes_one (value : Nat) : wordBytes 1 value = [UInt8.ofNat value] := by
  simp [wordBytes,capacity_zero]

namespace Read

-- Takes exactly these bytes off and answers this value, whatever follows them.
def Takes (read : Read α) (bytes : List UInt8) (value : α) : Prop := ∀ rest, read (bytes ++ rest) = .ok value rest

theorem takes_pure (value : α) : Takes (pure value) [] value := fun _ => rfl

theorem Takes.seq {first : Read α} {next : α → Read β} {a b : List UInt8} {x : α} {y : β} (one : Takes first a x)
    (two : Takes (next x) b y) : Takes (first >>= next) (a ++ b) y := by
  intro rest
  rw [List.append_assoc,seq_ok (one _),two]

theorem Takes.map {first : Read α} {bytes : List UInt8} {x : α} (one : Takes first bytes x) (change : α → β) :
    Takes (do return change (← first)) bytes (change x) := by
  have done : Takes (first >>= fun x => pure (change x)) (bytes ++ []) (change x) := one.seq (takes_pure _)
  rwa [List.append_nil] at done

section
variable {memory : List UInt8} {length : Int}

-- A length is exact as long as it is a signed number of 32 bits, and most of those above
-- come out negative.
theorem unread_short (low : 0 ≤ length) (high : length < 0x80000000) : unread memory length = .ok (memory.take length.toNat) := by
  have same : length.bmod 0x100000000 = length := Int.bmod_eq_of_le_mul_two (by omega) (by omega)
  simp only [unread,same]
  rw [if_neg (by omega),if_neg (by omega)]

theorem unread_long (low : 0x80000000 ≤ length) (high : length < 0xFFFFFFFF) : unread memory length = .error .negativeSize := by
  have wrapped : length.bmod 0x100000000 = length - 0x100000000 := by
    rw [← Int.sub_bmod_right]
    exact Int.bmod_eq_of_le_mul_two (by omega) (by omega)
  simp only [unread,wrapped]
  rw [if_neg (by omega),if_pos (by omega)]

theorem unread_ones : unread memory 0xFFFFFFFF = .ok (memory.takeWhile (fun byte => byte != 0)) := rfl

theorem unread_all (small : memory.length < 0x80000000) : unread memory memory.length = .ok memory := by
  rw [unread_short (Int.natCast_nonneg _) (by omega),Int.toNat_natCast,List.take_length]

end

theorem takes_take (bytes : List UInt8) : Takes (take bytes.length) bytes bytes := by
  intro rest
  simp only [take]
  rw [seq_ok get_run,if_neg (by simp),seq_ok set_run]
  simp

theorem takes_word (width : Nat) {value : Nat} (small : value < capacity width) :
    Takes (word width) (wordBytes width value) value := by
  have taken := takes_take (wordBytes width value)
  rw [wordBytes_length] at taken
  have done := taken.map wordValue
  rwa [wordValue_wordBytes,Nat.mod_eq_of_lt small] at done

theorem takes_truth (value : Bool) : Takes truth [if value then 1 else 0] value := by
  cases value with
  | false => exact (takes_word 1 (show 0 < capacity 1 by decide)).map (fun byte => byte != 0)
  | true => exact (takes_word 1 (show 1 < capacity 1 by decide)).map (fun byte => byte != 0)

theorem takes_presence (value : Bool) : Takes presence [if value then 1 else 0] value := by
  cases value with
  | false => exact (takes_word 1 (show 0 < capacity 1 by decide)).seq (takes_pure false)
  | true => exact (takes_word 1 (show 1 < capacity 1 by decide)).seq (takes_pure true)

theorem takes_signed {number : Int} (low : -0x80000000 ≤ number) (high : number < 0x80000000) :
    Takes i32 (wordBytes 4 (signedWord 4 number)) number := by
  have width := capacity_four
  have small : signedWord 4 number < capacity 4 := by
    simp only [signedWord,width]
    omega
  have done := (takes_word 4 small).map (signedValue 4)
  have same : signedValue 4 (signedWord 4 number) = number := by
    simp only [signedValue,signedWord,width]
    split <;> omega
  rwa [same] at done

theorem takes_i32 {number : Nat} (small : number < 0x80000000) : Takes i32 (wordBytes 4 number) (number : Int) := by
  have done := takes_signed (show -0x80000000 ≤ (number : Int) by omega) (show (number : Int) < 0x80000000 by omega)
  rwa [signedWord_small small] at done

theorem takes_single {pattern : Nat} (small : pattern < capacity 4) :
    Takes single (wordBytes 4 pattern) (Double.widen pattern) := (takes_word _ small).map Double.widen

theorem takes_double (value : Double) : Takes double (wordBytes 8 value.pattern) value := by
  have small : value.pattern < capacity 8 := value.bits.toNat_lt
  have done := (takes_word _ small).map Double.ofPattern
  have same : Double.ofPattern value.pattern = value := by
    cases value; simp [Double.ofPattern,Double.pattern]
  rwa [same] at done

theorem takes_bytes {content : List UInt8} (small : content.length < capacity 4) :
    Takes Read.bytes (wordBytes 4 content.length ++ content) content := (takes_word _ small).seq (takes_take content)

theorem takes_text {value : String} (small : (Text.Utf8.encode value).length < capacity 4) :
    Takes Read.text (wordBytes 4 (Text.Utf8.encode value).length ++ Text.Utf8.encode value) value := by
  have done : Takes Read.text (wordBytes 4 (Text.Utf8.encode value).length ++ Text.Utf8.encode value ++ []) value := by
    refine (takes_bytes small).seq ?_
    rw [Text.Utf8.decode_encode]
    exact takes_pure value
  rwa [List.append_nil] at done

-- All that can come of reading at most so many bytes: either the bytes taken off and
-- the value fit together, or the bytes are at fault.
def Within (limit : Nat) (read : Read α) (meets : α → List UInt8 → Prop) : Prop :=
  ∀ unread, unread.length ≤ limit →
    match read unread with
    | .ok value rest => ∃ taken, unread = taken ++ rest ∧ meets value taken
    | .error fault _ => fault.IsForeign

variable {limit : Nat} {meets : α → List UInt8 → Prop}

theorem within_pure {value : α} (met : meets value []) : Within limit (pure value) meets :=
  fun _ _ => ⟨[],rfl,met⟩

theorem within_throw {fault : Fault} (foreign : fault.IsForeign) : Within limit (throw fault) meets :=
  fun _ _ => foreign

theorem Within.seq {first : Read α} {next : α → Read β} {after : β → List UInt8 → Prop} (one : Within limit first meets)
    (two : ∀ x taken, taken.length ≤ limit → meets x taken →
      Within (limit - taken.length) (next x) (fun y more => after y (taken ++ more))) :
    Within limit (first >>= next) after := by
  intro unread short
  have start := one unread short
  cases run : first unread with
  | error fault left =>
    rw [run] at start
    rw [seq_error run]
    exact start
  | ok x rest =>
    rw [run] at start
    obtain ⟨taken,rfl,met⟩ := start
    rw [seq_ok run]
    rw [List.length_append] at short
    have finish := two x taken (by omega) met rest (by omega)
    cases run' : next x rest with
    | error fault left => rw [run'] at finish; exact finish
    | ok y left =>
      rw [run'] at finish
      obtain ⟨more,rfl,met'⟩ := finish
      exact ⟨taken ++ more,by rw [List.append_assoc],met'⟩

theorem Within.mono {read : Read α} {weaker : α → List UInt8 → Prop} (one : Within limit read meets)
    (weaken : ∀ value taken, meets value taken → weaker value taken) : Within limit read weaker := by
  intro unread short
  have done := one unread short
  cases run : read unread with
  | error fault left => rw [run] at done; exact done
  | ok value rest =>
    rw [run] at done
    obtain ⟨taken,same,met⟩ := done
    exact ⟨taken,same,weaken value taken met⟩

theorem Within.map {read : Read α} {after : β → List UInt8 → Prop} {change : α → β} (one : Within limit read meets)
    (met : ∀ value taken, meets value taken → after (change value) taken) :
    Within limit (do return change (← read)) after :=
  one.seq (fun value taken _ held => within_pure (by rw [List.append_nil]; exact met value taken held))

theorem within_take (width : Nat) : Within limit (take width) (fun value taken => value = taken ∧ taken.length = width) := by
  intro unread _
  simp only [take]
  rw [seq_ok get_run]
  by_cases short : unread.length < width
  · rw [if_pos short]
    exact .inl rfl
  · rw [if_neg short,seq_ok set_run]
    exact ⟨unread.take width,(List.take_append_drop width unread).symm,rfl,by simp; omega⟩

theorem within_word (width : Nat) : Within limit (word width)
    (fun value taken => taken = wordBytes width value ∧ value < capacity width) := by
  refine (within_take width).map ?_
  rintro _ taken ⟨rfl,rfl⟩
  exact ⟨(wordBytes_wordValue _).symm,wordValue_lt _⟩

theorem within_truth : Within limit truth (fun value taken => ∃ byte, taken = [byte] ∧ value = (byte != 0)) := by
  refine (within_word 1).map ?_
  rintro value taken ⟨rfl,small⟩
  rw [capacity_one] at small
  refine ⟨UInt8.ofNat value,wordBytes_one value,?_⟩
  have number : (UInt8.ofNat value).toNat = value := UInt8.toNat_ofNat_of_lt' small
  rw [Bool.eq_iff_iff]
  simp [← UInt8.toNat_inj,number]

theorem within_presence : Within limit presence (fun value taken => taken = [if value then 1 else 0]) := by
  refine (within_word 1).seq ?_
  rintro flag taken _ ⟨rfl,_⟩
  rw [wordBytes_one]
  split
  · rename_i zero; exact within_pure (by simp [zero])
  · split
    · rename_i one; exact within_pure (by simp [one])
    · exact within_throw (.inl rfl)

theorem within_i32 : Within limit i32 (fun value taken => taken = wordBytes 4 (signedWord 4 value) ∧ value < 0x80000000) := by
  refine (within_word 4).map ?_
  rintro value taken ⟨rfl,small⟩
  have word : signedWord 4 (signedValue 4 value) = value := by
    simp only [signedWord,signedValue,capacity_four] at *
    split <;> omega
  rw [word]
  refine ⟨rfl,?_⟩
  simp only [signedValue,capacity_four] at *
  split <;> omega

theorem within_single : Within limit single (fun value taken => ∃ pattern < capacity 4,
    taken = wordBytes 4 pattern ∧ value = Double.widen pattern) := by
  refine (within_word 4).map ?_
  rintro pattern taken ⟨rfl,small⟩
  exact ⟨pattern,small,rfl,rfl⟩

theorem within_double : Within limit double (fun value taken => taken = wordBytes 8 value.pattern) := by
  refine (within_word 8).map ?_
  rintro pattern taken ⟨rfl,small⟩
  have same : (Double.ofPattern pattern).pattern = pattern := UInt64.toNat_ofNat_of_lt' small
  rw [same]

theorem within_bytes : Within limit Read.bytes (fun value taken =>
    taken = wordBytes 4 value.length ++ value ∧ value.length < capacity 4) := by
  refine (within_word 4).seq ?_
  rintro size taken _ ⟨rfl,small⟩
  refine (within_take size).mono ?_
  rintro value _ ⟨rfl,rfl⟩
  exact ⟨rfl,small⟩

theorem within_text : Within limit Read.text (fun value taken =>
    taken = wordBytes 4 (Text.Utf8.encode value).length ++ Text.Utf8.encode value ∧
      (Text.Utf8.encode value).length < capacity 4) := by
  refine within_bytes.seq ?_
  rintro encoded taken _ ⟨rfl,small⟩
  cases decoded : Text.Utf8.decode encoded with
  | none => exact within_throw (.inr rfl)
  | some text =>
    obtain rfl := Text.Utf8.encode_of_decode _ _ decoded
    exact within_pure ⟨by rw [List.append_nil],small⟩

end Read
end Wire
end NativeBinding
