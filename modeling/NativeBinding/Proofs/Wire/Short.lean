import NativeBinding.Proofs.Wire.Take

namespace NativeBinding.Wire.Read

-- Wherever these bytes are cut off, reading fails because of the bytes that are missing
-- and of nothing else. Only cuts up to the limit count.
def Misses (limit : Nat) (read : Read α) (bytes : List UInt8) : Prop :=
  ∀ kept lost, kept.length ≤ limit → lost ≠ [] → bytes = kept ++ lost →
    ∃ left, read kept = .error (.disagreement .endedEarly) left

variable {limit : Nat} {bytes : List UInt8}

theorem misses_nil {read : Read α} : Misses limit read [] := by
  intro kept lost _ some same
  exact absurd (List.append_eq_nil_iff.mp same.symm).2 some

theorem Misses.before {first : Read α} (one : Misses limit first bytes) (next : α → Read β) :
    Misses limit (first >>= next) bytes := by
  intro kept lost short some same
  obtain ⟨left,failed⟩ := one kept lost short some same
  exact ⟨left,seq_error failed⟩

theorem Misses.seq {first : Read α} {next : α → Read β} {a b : List UInt8} (one : Misses limit first a)
    (two : a.length ≤ limit → ∃ x, Takes first a x ∧ Misses (limit - a.length) (next x) b) :
    Misses limit (first >>= next) (a ++ b) := by
  intro kept lost short some same
  have front : a <+: a ++ b := List.prefix_append a b
  have own : kept <+: a ++ b := ⟨lost,same.symm⟩
  rcases Nat.lt_or_ge kept.length a.length with inside | behind
  · obtain ⟨between,rfl⟩ := List.prefix_of_prefix_length_le own front inside.le
    have some : between ≠ [] := by
      rintro rfl
      simp at inside
    exact one.before next kept between short some rfl
  · obtain ⟨between,rfl⟩ := List.prefix_of_prefix_length_le front own behind
    rw [List.append_assoc] at same
    obtain rfl := List.append_cancel_left same
    rw [List.length_append] at short
    obtain ⟨x,taken,two⟩ := two (by omega)
    obtain ⟨left,failed⟩ := two between lost (by omega) some rfl
    exact ⟨left,by rw [seq_ok (taken between),failed]⟩

theorem misses_take (bytes : List UInt8) : Misses limit (take bytes.length) bytes := by
  intro kept lost _ some same
  have fewer : kept.length < bytes.length := by
    have positive := List.length_pos_iff.mpr some
    rw [same,List.length_append]
    omega
  refine ⟨kept,?_⟩
  simp only [take]
  rw [seq_ok get_run,if_pos fewer]
  rfl

theorem misses_word (width : Nat) {bytes : List UInt8} (length : bytes.length = width) : Misses limit (word width) bytes := by
  subst length
  exact (misses_take bytes).before _

theorem misses_truth (byte : UInt8) : Misses limit truth [byte] := (misses_word 1 rfl).before _

theorem misses_presence (byte : UInt8) : Misses limit presence [byte] := (misses_word 1 rfl).before _

theorem misses_i32 (number : Nat) : Misses limit i32 (wordBytes 4 number) :=
  (misses_word 4 (wordBytes_length 4 number)).before _

theorem misses_single (pattern : Nat) : Misses limit single (wordBytes 4 pattern) :=
  (misses_word 4 (wordBytes_length 4 pattern)).before _

theorem misses_double (pattern : Nat) : Misses limit double (wordBytes 8 pattern) :=
  (misses_word 8 (wordBytes_length 8 pattern)).before _

theorem misses_bytes {content : List UInt8} (small : content.length < capacity 4) :
    Misses limit Read.bytes (wordBytes 4 content.length ++ content) :=
  (misses_word 4 (wordBytes_length 4 _)).seq (fun _ => ⟨_,takes_word 4 small,misses_take content⟩)

theorem misses_text {content : List UInt8} (small : content.length < capacity 4) :
    Misses limit Read.text (wordBytes 4 content.length ++ content) := (misses_bytes small).before _

end NativeBinding.Wire.Read
