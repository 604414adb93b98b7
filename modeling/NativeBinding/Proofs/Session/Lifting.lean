import NativeBinding.Proofs.Codec.Decode
import NativeBinding.Proofs.Session.Lowering

namespace NativeBinding
open Wire

structure Session.Holds (session : Session) (buffer : Buffer) (bytes : List UInt8) : Prop where
  content : session.library.content buffer = bytes
  length : buffer.length = bytes.length

namespace Session
variable {session : Session} {buffer : Buffer}

theorem Holds.id (holds : session.Holds buffer bytes) (some : buffer.length ≠ 0) : buffer.id.isSome := by
  cases named : buffer.id with
  | some id => rfl
  | none =>
    have empty : session.library.content buffer = [] := by rw [Library.content,Library.block?,named]; rfl
    rw [← holds.content,empty] at holds
    exact absurd holds.length some

theorem holds_holding (sound : session.library.Sound) (content : List UInt8) :
    (session.holding content).Holds (session.nextBuffer content.length) content :=
  ⟨content_holding sound content,rfl⟩

end Session

namespace Act
variable {session : Session} {buffer : Buffer} {model : Model}

theorem scan_holds {read : Read α} (holds : session.Holds buffer bytes) : scan buffer read session =
    (do
      let unread ← ofResult (Read.unread bytes bytes.length)
      match read unread with
      | .ok value _ => return value
      | .error fault _ => throw fault : Act α) session := by
  have length : 0 ≤ buffer.length := holds.length ▸ Int.natCast_nonneg _
  have run : scan buffer read session = _ := (seq_ok (checkAddress_ok length holds.id)).trans (seq_ok get_run)
  rw [holds.content,holds.length] at run
  exact run

theorem scan_short {read : Read α} (holds : session.Holds buffer bytes) (short : bytes.length < 0x80000000) :
    scan buffer read session =
      match read bytes with
      | .ok value _ => .ok value session
      | .error fault _ => .error fault session := by
  rw [scan_holds holds,Read.unread_all short,seq_ok (ofResult_ok _)]
  cases read bytes <;> rfl

theorem scan_long {read : Read α} (holds : session.Holds buffer bytes) (low : 0x80000000 ≤ bytes.length)
    (high : bytes.length < 0xFFFFFFFF) : scan buffer read session = .error .negativeSize session := by
  rw [scan_holds holds,Read.unread_long (by omega) (by omega)]
  exact seq_error (ofResult_error _)

theorem free_ok (buffer : Buffer) (bound : session.bound = some .this) (frees : session.library.failFree = false) :
    ∃ after, free buffer session = .ok () after := by
  rw [free_bound buffer bound]
  exact ⟨_,release_ok buffer frees⟩

theorem liftBuffer_eq : liftBuffer model type buffer = (do
    let value ← guarding buffer (scan buffer (model.decodeWhole type))
    free buffer
    return value) := rfl

-- What is read from a buffer decides what comes of lifting it, as long as it can be released.
theorem liftBuffer_ok (bound : session.bound = some .this) (frees : session.library.failFree = false)
    (scanned : scan buffer (model.decodeWhole type) session = .ok value session) :
    ∃ after, liftBuffer model type buffer session = .ok value after := by
  obtain ⟨after,freed⟩ := free_ok buffer bound frees
  refine ⟨after,?_⟩
  rw [liftBuffer_eq,seq_ok (guarding_ok scanned),seq_ok freed]
  rfl

theorem scan_ok (holds : session.Holds buffer bytes) (short : bytes.length < 0x80000000)
    (done : model.decodeWhole type bytes = .ok value rest) :
    scan buffer (model.decodeWhole type) session = .ok value session := by rw [scan_short holds short,done]

theorem scan_error (holds : session.Holds buffer bytes) (short : bytes.length < 0x80000000)
    (failed : model.decodeWhole type bytes = .error fault rest) :
    scan buffer (model.decodeWhole type) session = .error fault session := by rw [scan_short holds short,failed]

theorem liftBuffer_error (failed : scan buffer (model.decodeWhole type) session = .error fault session) :
    ∃ after, freeQuietly buffer session = .ok () after ∧ liftBuffer model type buffer session = .error fault after := by
  obtain ⟨after,released,failed⟩ := guarding_error failed
  refine ⟨after,released,?_⟩
  rw [liftBuffer_eq]
  exact seq_error failed

end Act

section
variable {model : Model}

theorem fillWith_appends {size : Nat} (appends : Write.Appends (model.encode type value) bytes) (full : bytes.length = size) :
    model.fillWith type value size = .ok bytes := by
  have done : (do model.encode type value; Write.finish : Write Unit) (Writer.ofSize size) =
      .ok () ((Writer.ofSize size).append bytes) := by
    rw [seq_ok (appends _ (by simp [Writer.offset,Writer.ofSize,full]))]
    exact Write.finish_full full
  rw [Model.fillWith,done]
  rfl

-- A value that fits its type is lowered into its layout, if the component reports what
-- it was asked for.
theorem Typed.lowered (typed : Typed model type value) (distinct : model.Distinct) (whole : type.isBuffer)
    (small : (model.layoutWhole type value).length < capacity 4)
    (exact : Library.reported ((model.layoutWhole type value).length + delta) = (model.layoutWhole type value).length) :
    model.lowered delta type value = .ok (model.layoutWhole type value) := by
  have fits : ((model.layoutWhole type value).length : Int) ≤ Act.largestBuffer := by
    rw [capacity_four] at small
    rw [Act.largestBuffer]
    omega
  unfold Model.lowered
  rw [typed.wholeSize distinct whole]
  dsimp only
  rw [if_neg (Int.not_lt.mpr fits),if_pos exact]
  exact fillWith_appends (typed.wholeWrites distinct whole small) rfl

theorem Library.reported_exact {length : Nat} (small : length < capacity 4) : Library.reported (length + 0) = length := by
  rw [capacity_four] at small
  rw [Int.add_zero]
  refine Library.reported_small (Int.natCast_nonneg _) ?_
  rw [Act.largestBuffer]
  omega

theorem LaidWhole.lowered (laid : LaidWhole model type value items) (distinct : model.Distinct)
    (small : (encoding items).length < capacity 4) : model.lowered 0 type value = .ok (encoding items) := by
  obtain ⟨whole,typed⟩ := laid.typed
  have same := laid.layout distinct
  have done := typed.lowered distinct whole (same ▸ small) (Library.reported_exact (same ▸ small))
  rwa [same] at done

end
end NativeBinding
