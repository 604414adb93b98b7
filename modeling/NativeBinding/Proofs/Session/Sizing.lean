import NativeBinding.Proofs.Codec.Sized
import NativeBinding.Proofs.Session.Transfer

namespace NativeBinding
open Wire

theorem Fault.BlamesSize.disagreement {fault : Fault} (blames : fault.BlamesSize) : ∃ cause, fault = .disagreement cause := by
  rcases blames with rfl | ⟨_,_,rfl⟩
  · exact ⟨_,rfl⟩
  · exact ⟨_,rfl⟩

theorem Fault.IsOwn.blameless {fault : Fault} (own : fault.IsOwn) : ¬ fault.BlamesSize := by
  intro blames
  obtain ⟨cause,rfl⟩ := blames.disagreement
  simp [IsOwn,kind] at own

theorem Library.problem?_blameless {file : String} (problem : problem? file = some fault) : ¬ fault.BlamesSize := by
  intro blames
  obtain ⟨cause,rfl⟩ := blames.disagreement
  unfold problem? at problem
  repeat' split at problem
  all_goals cases problem

theorem Model.finish_own {model : Model} (sized : model.encodedSize type value = .ok size)
    (failed : (do model.encode type value; Write.finish : Write Unit) (Writer.ofSize size) = .error fault after) :
    fault.IsOwn := by
  have measured := measured_encode model type value sized (Writer.ofSize size) (Nat.le_of_eq (Nat.zero_add size))
  cases run : model.encode type value (Writer.ofSize size) with
  | error cause stopped =>
    rw [run] at measured
    rw [seq_error run] at failed
    cases failed
    exact measured.1
  | ok _ writer =>
    rw [run] at measured
    have full : writer.offset = writer.size := by
      rw [measured.2,measured.1]
      exact Nat.zero_add size
    rw [seq_ok run] at failed
    simp only [Write.finish] at failed
    rw [seq_ok get_run] at failed
    simp only [full,bne_self_eq_false] at failed
    cases failed

namespace Act

variable {session : Session}

def Blameless (action : Act α) (done : α → Prop) : Prop :=
  ∀ session, Leads action session (fun value _ => done value) (fun fault _ => ¬ fault.BlamesSize)

theorem Blameless.seq {action : Act α} {next : α → Act β} {done : α → Prop} {last : β → Prop}
    (one : Blameless action done) (two : ∀ value, done value → Blameless (next value) last) :
    Blameless (action >>= next) last :=
  fun session => (one session).seq (fun value after met => two value met after)

theorem blameless_throw {fault : Fault} {done : α → Prop} (other : ∀ cause, fault ≠ .disagreement cause) :
    Blameless (throw fault) done := by
  intro session blames
  obtain ⟨cause,same⟩ := Fault.BlamesSize.disagreement blames
  exact other cause same

theorem blameless_disagree {cause : Disagreement} {done : α → Prop} (other : ¬ (Fault.disagreement cause).BlamesSize) :
    Blameless (disagree cause) done := fun _ => other

theorem blameless_modify (change : Session → Session) : Blameless (modify change : Act PUnit) (fun _ => True) :=
  fun _ => trivial

theorem blameless_needLibrary : Blameless needLibrary (fun _ => True) := by
  intro session
  simp only [needLibrary,Leads]
  rw [seq_ok get_run]
  cases bound : session.bound with
  | none =>
    simp only [openLibrary]
    cases problem : Library.problem? session.file with
    | none => exact Fault.IsOwn.blameless (by decide)
    | some fault => exact Library.problem?_blameless problem
  | some owner =>
    cases owner with
    | this => trivial
    | other => exact Fault.IsOwn.blameless (by decide)

theorem blameless_quietly (buffer : Buffer) : Blameless (freeQuietly buffer) (fun _ => True) := by
  intro session
  obtain ⟨after,released⟩ := freeQuietly_ok buffer session
  exact leads_ok released trivial

theorem blameless_pure {value : α} {done : α → Prop} (met : done value) : Blameless (pure value) done := fun _ => met

theorem blameless_make (size : Int) : Blameless (make size) (fun _ => True) := fun _ => leads_ok (make_run size) trivial

-- Whatever the component reports, an allocation that succeeds has the size asked for.
theorem blameless_alloc (size : Int) : Blameless (alloc size) (fun buffer => buffer.length = size) := by
  unfold alloc
  split
  · exact blameless_throw nofun
  · refine blameless_needLibrary.seq (fun _ _ => (blameless_make size).seq (fun buffer _ => ?_))
    split
    · rename_i exact
      exact blameless_pure exact
    · refine (blameless_quietly buffer).seq (fun _ _ => blameless_disagree ?_)
      rintro (same | ⟨_,_,same⟩) <;> cases same

theorem blameless_checkAddress (buffer : Buffer) : Blameless (checkAddress buffer) (fun _ => True) := by
  have other {cause : Disagreement} (named : (∃ shown, cause = .negativeLength shown) ∨ ∃ shown, cause = .missingData shown) :
      Blameless (disagree cause : Act PUnit) (fun _ => True) := by
    refine blameless_disagree ?_
    rcases named with ⟨_,rfl⟩ | ⟨_,rfl⟩ <;> rintro (same | ⟨_,_,same⟩) <;> cases same
  have data : Blameless (if buffer.length ≠ 0 ∧ buffer.id.isNone then disagree (.missingData (toString buffer.length))
      else pure ()) (fun _ => True) := by
    split
    · exact other (.inr ⟨_,rfl⟩)
    · exact blameless_pure trivial
  simp only [checkAddress]
  by_cases negative : buffer.length < 0
  · rw [if_pos negative]
    exact (other (.inl ⟨_,rfl⟩)).seq (fun _ _ => data)
  · rw [if_neg negative]
    exact data

theorem blameless_guarding (buffer : Buffer) {action : Act α} {done : α → Prop} (inside : Blameless action done) :
    Blameless (guarding buffer action) done := by
  intro session
  have met := inside session
  rw [Leads] at met
  cases run : action session with
  | ok value after =>
    rw [run] at met
    exact leads_ok (guarding_ok run) met
  | error fault after =>
    rw [run] at met
    obtain ⟨later,_,failed⟩ := guarding_error run
    exact leads_error failed met

theorem blameless_fill {model : Model} (sized : model.encodedSize type value = .ok size) (length : buffer.length = (size : Int)) :
    Blameless (fill buffer (do model.encode type value; Write.finish)) (fun _ => True) := by
  refine (blameless_checkAddress buffer).seq (fun _ _ => ?_)
  rw [length,Int.toNat_natCast]
  split
  · exact blameless_modify _
  · rename_i failed
    refine (blameless_modify _).seq (fun _ _ session => ?_)
    exact (Model.finish_own sized failed).blameless

theorem blameless_lowerBuffer (model : Model) (type : TypeRef) (value : Value) :
    Blameless (lowerBuffer model type value) (fun _ => True) := by
  unfold lowerBuffer
  cases sized : model.encodedSize type value with
  | error fault =>
    refine blameless_throw ?_
    rintro cause rfl
    exact harmless_size model type value cause sized
  | ok size =>
    have known : Blameless (ofResult (.ok size)) (fun found => found = size) := blameless_pure rfl
    refine known.seq ?_
    rintro _ rfl
    refine (blameless_alloc _).seq (fun buffer length => ?_)
    exact (blameless_guarding buffer (blameless_fill sized length)).seq (fun _ _ => blameless_pure trivial)

end Act

-- Whatever a value is and however it was put together, writing it takes just the bytes
-- that were counted for it, or it stops within them because of the value. So no buffer
-- is ever found too short or not full, whatever the component allocates.
theorem size_agrees (model : Model) (type : TypeRef) (value : Value) :
    (∀ size, model.encodedSize type value = .ok size → match model.encode type value (Writer.ofSize size) with
      | .ok _ after => after.offset = size
      | .error fault after => fault.IsOwn ∧ after.size = size ∧ after.Fits) ∧
    ∀ session fault after, Act.lowerBuffer model type value session = .error fault after → ¬ fault.BlamesSize := by
  refine ⟨?_,?_⟩
  · intro size sized
    have measured := measured_encode model type value sized (Writer.ofSize size) (Nat.le_of_eq (Nat.zero_add size))
    have kept := keeps_encode model type value (Writer.ofSize size) (Writer.fits_ofSize size) (Nat.zero_le _)
    cases run : model.encode type value (Writer.ofSize size) with
    | ok _ after =>
      rw [run] at measured
      exact measured.2.trans (Nat.zero_add size)
    | error fault after =>
      rw [run] at measured kept
      exact ⟨measured.1,kept⟩
  · intro session fault after failed
    have met := Act.blameless_lowerBuffer model type value session
    rw [Act.Leads,failed] at met
    exact met

def strayNode : Value := .record "Node" [("weight",.text "heavy"),("shade",.wrapped (.int 3)),("next",.null)]

theorem size_agrees_sample : sampleModel.encodedSize (.recordOf "Node") strayNode = .ok 10 ∧
    sampleModel.encode (.recordOf "Node") strayNode (Writer.ofSize 10) = .error .unpackable ⟨10,[1],[0,0,0,0]⟩ ∧
    Fault.unpackable.IsOwn ∧ (⟨10,[1],[0,0,0,0]⟩ : Writer).Fits := by
  have sized : sampleModel.encodedSize (.recordOf "Node") strayNode = .ok 10 := rfl
  have run : sampleModel.encode (.recordOf "Node") strayNode (Writer.ofSize 10) =
      .error .unpackable ⟨10,[1],[0,0,0,0]⟩ := rfl
  have met := (size_agrees sampleModel (.recordOf "Node") strayNode).1 10 sized
  rw [run] at met
  exact ⟨sized,run,met.1,met.2.2⟩

end NativeBinding
