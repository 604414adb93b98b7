namespace NativeBinding.Text.Utf8

-- Strict in both directions: surrogates, overlong forms and numbers beyond the
-- last code point are no encoding of any text.
def encode (s : String) : List UInt8 := s.toByteArray.data.toList

def decode (bytes : List UInt8) : Option String := String.fromUTF8? ⟨bytes.toArray⟩

theorem decode_encode (s : String) : decode (encode s) = some s := by
  simp only [decode,encode,Array.toArray_toList]
  simp only [String.fromUTF8?]
  rw [dif_pos (by simpa using s.isValidUTF8)]
  rfl

theorem encode_of_decode (bytes : List UInt8) (s : String) (decoded : decode bytes = some s) :
    encode s = bytes := by
  simp only [decode,String.fromUTF8?] at decoded
  split at decoded
  · cases decoded; simp [encode,String.fromUTF8]
  · cases decoded

end NativeBinding.Text.Utf8
