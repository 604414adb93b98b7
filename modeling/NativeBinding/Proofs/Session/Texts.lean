import NativeBinding.Proofs.Text.Bytes
import NativeBinding.Session.Call

namespace NativeBinding
namespace Act

theorem lowerText_zero {text : String} (zero : '\x00' ∈ text.toList) : lowerText (.text text) = .error .nulCharacter := by
  have found : (Text.Utf8.encode text).contains 0 = true := List.contains_iff_mem.mpr (Text.Utf8.zero_encode.mpr zero)
  change (if (Text.Utf8.encode text).contains 0 then _ else _) = _
  rw [if_pos found]

theorem lowerText_free {text : String} (free : 0 ∉ Text.Utf8.encode text) : lowerText (.text text) = .ok (Text.Utf8.encode text) := by
  have none : ¬ (Text.Utf8.encode text).contains 0 = true := fun found => free (List.contains_iff_mem.mp found)
  change (if (Text.Utf8.encode text).contains 0 then _ else _) = _
  rw [if_neg none]

theorem liftText_encoded (text : String) : liftText (.value (.bytes (Text.Utf8.encode text))) = .ok (.text text) := by
  simp only [liftText,Text.Utf8.decode_encode]

end Act

-- A text without zero characters crosses as its bytes, none of which is zero, and is what
-- they are lifted to; any bytes are those of the text that they are lifted to, or of none.
theorem text_crosses_exactly (text : String) (bytes : List UInt8) :
    ((∃ fault, Act.lowerText (.text text) = .error fault ∧ fault.kind = .value) ↔ '\x00' ∈ text.toList) ∧
    ('\x00' ∉ text.toList → ∃ lowered, Act.lowerText (.text text) = .ok lowered ∧ 0 ∉ lowered ∧
      Act.liftText (.value (.bytes lowered)) = .ok (.text text)) ∧
    ((∃ fault, Act.liftText (.value (.bytes bytes)) = .error fault ∧ fault.kind = .decoding ∧
        ∀ other, Text.Utf8.encode other ≠ bytes) ∨
      ∃ lifted, Act.liftText (.value (.bytes bytes)) = .ok (.text lifted) ∧ Text.Utf8.encode lifted = bytes ∧
        (0 ∉ bytes → Act.lowerText (.text lifted) = .ok bytes)) := by
  refine ⟨⟨?_,?_⟩,?_,?_⟩
  · intro ⟨fault,failed,_⟩
    by_contra free
    rw [← Text.Utf8.zero_encode] at free
    rw [Act.lowerText_free free] at failed
    cases failed
  · intro zero
    exact ⟨_,Act.lowerText_zero zero,rfl⟩
  · intro free
    rw [← Text.Utf8.zero_encode] at free
    exact ⟨_,Act.lowerText_free free,free,Act.liftText_encoded text⟩
  · cases decoded : Text.Utf8.decode bytes with
    | none =>
      left
      exact ⟨.invalidText,by simp only [Act.liftText,decoded],rfl,Text.Utf8.decode_none.mp decoded⟩
    | some lifted =>
      right
      obtain rfl := Text.Utf8.encode_of_decode bytes lifted decoded
      exact ⟨lifted,Act.liftText_encoded lifted,rfl,Act.lowerText_free⟩

end NativeBinding
