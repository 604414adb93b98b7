import Mathlib
import NativeBinding.Text.Utf8

namespace NativeBinding.Text.Utf8

theorem encode_chars (text : String) : encode text = text.toList.flatMap String.utf8EncodeChar := by
  have whole : text.toByteArray = text.toList.utf8Encode := by
    rw [← String.toByteArray_ofList,String.ofList_toList]
  rw [encode,whole,List.utf8Encode]
  simp

-- The first byte of several tells how many there are, the other ones that they go on: none
-- of them is zero.
theorem zero_char {c : Char} : 0 ∈ String.utf8EncodeChar c ↔ c = '\x00' := by
  have zero (n : Nat) : (0 : UInt8) = UInt8.ofNat n ↔ n % 256 = 0 := by
    rw [← UInt8.toNat_inj,UInt8.toNat_ofNat',eq_comm]
    rfl
  have nul : c = '\x00' ↔ c.val.toNat = 0 := by
    rw [← Char.toNat_inj]
    rfl
  rw [nul]
  unfold String.utf8EncodeChar
  dsimp only
  split
  · rw [List.mem_singleton,zero]
    omega
  · split
    · simp only [List.mem_cons,zero,List.not_mem_nil,or_false]
      omega
    · split
      · simp only [List.mem_cons,zero,List.not_mem_nil,or_false]
        omega
      · simp only [List.mem_cons,zero,List.not_mem_nil,or_false]
        omega

theorem zero_encode {text : String} : 0 ∈ encode text ↔ '\x00' ∈ text.toList := by
  rw [encode_chars,List.mem_flatMap]
  constructor
  · intro ⟨c,member,inside⟩
    rw [zero_char] at inside
    exact inside ▸ member
  · intro member
    exact ⟨_,member,zero_char.mpr rfl⟩

theorem decode_none {bytes : List UInt8} : decode bytes = none ↔ ∀ text, encode text ≠ bytes := by
  constructor
  · rintro failed text rfl
    rw [decode_encode] at failed
    cases failed
  · intro other
    cases decoded : decode bytes with
    | none => rfl
    | some text => exact absurd (encode_of_decode bytes text decoded) (other text)

example : decode [0xC0,0x80] = none := by decide

end NativeBinding.Text.Utf8
