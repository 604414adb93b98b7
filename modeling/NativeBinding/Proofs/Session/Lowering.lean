import NativeBinding.Proofs.Codec.Filled
import NativeBinding.Proofs.Session.Actions

namespace NativeBinding
open Wire

-- What a value is in a buffer of its own, given what the component reports beyond the
-- size that it is asked for. No memory is needed to tell.
def Model.lowered (model : Model) (delta : Int) (type : TypeRef) (value : Value) : Except Fault (List UInt8) :=
  match model.encodedSize type value with
  | .error fault => .error fault
  | .ok size =>
    if Act.largestBuffer < size then .error (.oversized size)
    else if Library.reported (size + delta) = size then model.fillWith type value size
    else .error (.disagreement (.wrongAllocation size (toString (Library.reported (size + delta)))))

theorem Library.reported_small {length : Int} (low : 0 ≤ length) (high : length ≤ Act.largestBuffer) :
    reported length = length := by
  rw [reported,Int.bmod_eq_of_le] <;> simp only [Act.largestBuffer] at high <;> omega

theorem Model.fillWith_length {model : Model} (done : model.fillWith type value size = .ok content) :
    content.length = size := by
  unfold fillWith at done
  split at done
  · rename_i run
    cases done
    exact (finished run).1
  · cases done

theorem Model.lowered_length {model : Model} (done : model.lowered delta type value = .ok content) :
    model.encodedSize type value = .ok content.length ∧ (content.length : Int) ≤ Act.largestBuffer := by
  unfold lowered at done
  split at done
  · cases done
  · rename_i size sized
    split at done
    · cases done
    · rename_i fits
      split at done
      · rw [fillWith_length done]
        exact ⟨sized,Int.not_lt.mp fits⟩
      · cases done

theorem Model.lowered_exact {model : Model} (done : model.lowered delta type value = .ok content) :
    Library.reported (content.length + delta) = content.length := by
  obtain ⟨sized,_⟩ := lowered_length done
  unfold lowered at done
  rw [sized] at done
  dsimp only at done
  split at done
  · cases done
  · split at done
    · assumption
    · cases done

def Session.holding (session : Session) (content : List UInt8) : Session :=
  { session.withRoom content.length with
    library := (session.withRoom content.length).library.store (session.nextBuffer content.length) content }

namespace Act

variable {session : Session}

-- Lowering fails exactly where the value has no content, and makes one buffer of just
-- its size where it has one.
theorem lowerBuffer_ok {model : Model} (bound : session.bound = some .this)
    (done : model.lowered session.library.allocDelta type value = .ok content) :
    lowerBuffer model type value session = .ok (session.nextBuffer content.length) (session.holding content) := by
  obtain ⟨sized,fits⟩ := Model.lowered_length done
  unfold Model.lowered at done
  rw [sized] at done
  dsimp only at done
  rw [if_neg (Int.not_lt.mpr fits)] at done
  split at done
  · rename_i exact
    unfold Model.fillWith at done
    split at done
    · rename_i writer run
      cases done
      have filled : fill (session.nextBuffer writer.filled.length) (do model.encode type value; Write.finish)
          (session.withRoom writer.filled.length) = .ok () _ := fill_ok (Int.natCast_nonneg _) rfl run
      rw [(finished run).2,List.append_nil] at filled
      simp only [lowerBuffer,sized]
      rw [seq_ok (ofResult_ok _),seq_ok (alloc_ok bound fits exact),seq_ok (guarding_ok filled)]
      rfl
    · cases done
  · cases done

theorem lowerBuffer_error {model : Model} (bound : session.bound = some .this)
    (failed : model.lowered session.library.allocDelta type value = .error fault) :
    ∃ after, lowerBuffer model type value session = .error fault after := by
  unfold Model.lowered at failed
  split at failed
  · rename_i sized
    cases failed
    refine ⟨session,?_⟩
    simp only [lowerBuffer,sized]
    exact seq_error (ofResult_error _)
  · rename_i size sized
    simp only [lowerBuffer,sized]
    rw [seq_ok (ofResult_ok _)]
    split at failed
    · rename_i large
      cases failed
      exact ⟨session,seq_error (alloc_oversized large)⟩
    · rename_i fits
      have fits := Int.not_lt.mp fits
      split at failed
      · rename_i exact
        unfold Model.fillWith at failed
        split at failed
        · cases failed
        · rename_i writer run
          cases failed
          have filled : fill (session.nextBuffer size) (do model.encode type value; Write.finish)
              (session.withRoom size) = .error fault _ := fill_error (Int.natCast_nonneg _) rfl run
          obtain ⟨later,_,failed⟩ := guarding_error filled
          refine ⟨later,?_⟩
          rw [seq_ok (alloc_ok bound fits exact)]
          exact seq_error failed
      · rename_i wrong
        cases failed
        obtain ⟨after,released⟩ := freeQuietly_ok _ _
        exact ⟨after,seq_error (alloc_wrong bound fits wrong released)⟩

theorem lowerBuffer_parts {model : Model} (done : lowerBuffer model type value session = .ok buffer after) :
    ∃ content, model.lowered session.library.allocDelta type value = .ok content ∧
      buffer = session.nextBuffer content.length ∧ after = session.holding content := by
  have bound : session.bound = some .this := by
    obtain ⟨_,later,sized,rest⟩ := seq_ok_parts done
    obtain ⟨_,_,made,_⟩ := seq_ok_parts rest
    rw [← ofResult_state sized]
    exact alloc_bound made
  cases run : model.lowered session.library.allocDelta type value with
  | ok content =>
    rw [lowerBuffer_ok bound run] at done
    cases done
    exact ⟨content,rfl,rfl,rfl⟩
  | error fault =>
    obtain ⟨_,failed⟩ := lowerBuffer_error bound run
    rw [failed] at done
    cases done

end Act

namespace Session
variable {session : Session}

theorem block?_holding (sound : session.library.Sound) (content : List UInt8) :
    (session.holding content).library.block? (session.nextBuffer content.length) =
      some ⟨session.library.made + 1,content.length,content⟩ := by
  have made : (session.withRoom content.length).library.block? (session.nextBuffer content.length) = _ :=
    Library.block?_make sound (content.length : Int).toNat [] (content.length + session.library.allocDelta)
  rw [holding,Library.block?_store _ made content,Int.toNat_natCast]

theorem content_holding (sound : session.library.Sound) (content : List UInt8) :
    (session.holding content).library.content (session.nextBuffer content.length) = content := by
  rw [Library.content_of_block (block?_holding sound content)]
  simp [Block.content]

end Session
end NativeBinding
