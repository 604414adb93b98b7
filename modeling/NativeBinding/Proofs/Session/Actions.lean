import NativeBinding.Proofs.Sequence
import NativeBinding.Proofs.Session.Library
import NativeBinding.Session.Call

namespace NativeBinding
open Wire

def Session.withRoom (session : Session) (size : Int) : Session :=
  { session with
    library := (session.library.make size.toNat [] (size + session.library.allocDelta)).2
    events := session.events ++ [.alloc (session.library.made + 1) (.int size)] }

def Session.afterCall (session : Session) (symbol : String) (arguments : List Lowered) : Session :=
  { session with
    library := (arguments.filterMap Lowered.buffer?).foldl Library.drop session.library
    events := session.events ++ [.call symbol (arguments.map (Act.passed session.library))] }

def Session.nextBuffer (session : Session) (size : Int) : Buffer := ⟨some (session.library.made + 1),size⟩

namespace Act

def Leads (action : Act α) (session : Session) (done : α → Session → Prop) (failed : Fault → Session → Prop) : Prop :=
  match action session with
  | .ok value after => done value after
  | .error fault after => failed fault after

section
variable {session : Session} {done : α → Session → Prop} {failed : Fault → Session → Prop} {action : Act α}

theorem leads_ok (run : action session = .ok value after) (met : done value after) : Leads action session done failed := by
  rw [Leads,run]
  exact met

theorem leads_error (run : action session = .error fault after) (met : failed fault after) :
    Leads action session done failed := by
  rw [Leads,run]
  exact met

theorem Leads.seq {next : α → Act β} {last : β → Session → Prop} (one : Leads action session done failed)
    (two : ∀ value after, done value after → Leads (next value) after last failed) :
    Leads (action >>= next) session last failed := by
  unfold Leads at one ⊢
  cases run : action session with
  | ok value after =>
    rw [run] at one
    rw [seq_ok run]
    exact two value after one
  | error fault after =>
    rw [run] at one
    rw [seq_error run]
    exact one

theorem Leads.mono {met : α → Session → Prop} {lost : Fault → Session → Prop} (one : Leads action session done failed)
    (ok : ∀ value after, done value after → met value after) (error : ∀ fault after, failed fault after → lost fault after) :
    Leads action session met lost := by
  unfold Leads at one ⊢
  cases run : action session with
  | ok value after => rw [run] at one; exact ok value after one
  | error fault after => rw [run] at one; exact error fault after one

theorem leads_pure (met : done value session) : Leads (pure value) session done failed := met

theorem leads_throw (met : failed fault session) : Leads (throw fault) session done failed := met

theorem leads_result {result : Except Fault α} (met : ∀ value, result = .ok value → done value session)
    (lost : ∀ fault, result = .error fault → failed fault session) : Leads (ofResult result) session done failed := by
  cases result with
  | ok value => exact met value rfl
  | error fault => exact lost fault rfl

end

variable {session : Session} {buffer : Buffer}

@[simp] theorem ofResult_ok (value : α) : ofResult (.ok value) session = .ok value session := rfl

@[simp] theorem ofResult_error (fault : Fault) : (ofResult (.error fault) : Act α) session = .error fault session := rfl

theorem ofResult_state {result : Except Fault α} (done : ofResult result session = .ok value after) : after = session := by
  cases result with
  | ok value => cases done; rfl
  | error fault => cases done

theorem needLibrary_bound (bound : session.bound = some .this) : needLibrary session = .ok () session := by
  simp only [needLibrary]
  rw [seq_ok get_run,bound]
  rfl

-- What keeps a session from its component depends on the file alone.
theorem needLibrary_unbound (other : session.bound ≠ some .this) : needLibrary session =
    .error (if session.bound.isNone then (Library.problem? session.file).getD .missingAttribute else .missingAttribute) session := by
  simp only [needLibrary]
  rw [seq_ok get_run]
  cases known : session.bound with
  | none => rfl
  | some owner =>
    cases owner with
    | this => exact absurd known other
    | other => rfl

@[simp] theorem emit_run (event : Event) : emit event session =
    .ok () { session with events := session.events ++ [event] } := rfl

theorem make_run (size : Int) : make size session =
    .ok ⟨some (session.library.made + 1),Library.reported (size + session.library.allocDelta)⟩ (session.withRoom size) := rfl

def shown (library : Library) (buffer : Buffer) : Event :=
  .free (if library.isLive buffer then buffer.id else none)

theorem release_ok (buffer : Buffer) (frees : session.library.failFree = false) : release buffer session =
    .ok () { session with
      library := session.library.drop buffer
      events := session.events ++ [shown session.library buffer] } := by
  simp only [release]
  rw [seq_ok get_run,seq_ok (emit_run _),frees]
  rfl

theorem release_error (buffer : Buffer) (fails : session.library.failFree = true) : release buffer session =
    .error .releaseFailed { session with events := session.events ++ [shown session.library buffer] } := by
  simp only [release]
  rw [seq_ok get_run,seq_ok (emit_run _),fails]
  rfl

theorem free_bound (buffer : Buffer) (bound : session.bound = some .this) : free buffer session = release buffer session := by
  simp only [free]
  rw [seq_ok (needLibrary_bound bound)]

theorem free_unbound (buffer : Buffer) (other : session.bound ≠ some .this) : ∃ fault, free buffer session = .error fault session := by
  simp only [free]
  exact ⟨_,seq_error (needLibrary_unbound other)⟩

theorem freeQuietly_ok (buffer : Buffer) (session : Session) : ∃ after, freeQuietly buffer session = .ok () after := by
  unfold freeQuietly
  split
  · exact ⟨_,rfl⟩
  · exact ⟨_,rfl⟩

theorem guarding_ok {buffer : Buffer} {action : Act α} (done : action session = .ok value after) :
    guarding buffer action session = .ok value after := by rw [guarding,done]

-- What is done while a failure is on its way never replaces it.
theorem guarding_error {buffer : Buffer} {action : Act α} (failed : action session = .error fault after) :
    ∃ later, freeQuietly buffer after = .ok () later ∧ guarding buffer action session = .error fault later := by
  obtain ⟨later,released⟩ := freeQuietly_ok buffer after
  refine ⟨later,released,?_⟩
  rw [guarding,failed]
  dsimp only
  rw [seq_ok released]
  rfl

theorem checkAddress_ok (length : 0 ≤ buffer.length) (data : buffer.length ≠ 0 → buffer.id.isSome) :
    checkAddress buffer session = .ok () session := by
  have there : ¬ (buffer.length ≠ 0 ∧ buffer.id.isNone) := by
    rintro ⟨some,none⟩
    have := data some
    simp_all
  simp only [checkAddress]
  rw [if_neg (Int.not_lt.mpr length),if_neg there]
  rfl

theorem alloc_ok (bound : session.bound = some .this) (fits : size ≤ largestBuffer)
    (exact : Library.reported (size + session.library.allocDelta) = size) :
    alloc size session = .ok (session.nextBuffer size) (session.withRoom size) := by
  simp only [alloc]
  rw [if_neg (Int.not_lt.mpr fits),seq_ok (needLibrary_bound bound),seq_ok (make_run size),if_pos exact,exact]
  rfl

theorem alloc_oversized (large : largestBuffer < size) : alloc size session = .error (.oversized size) session := by
  simp only [alloc]
  rw [if_pos large]
  rfl

theorem alloc_bound (done : alloc size session = .ok buffer after) : session.bound = some .this := by
  by_cases large : largestBuffer < size
  · rw [alloc_oversized large] at done
    cases done
  · simp only [alloc] at done
    rw [if_neg large] at done
    obtain ⟨_,_,need,_⟩ := seq_ok_parts done
    by_contra other
    rw [needLibrary_unbound other] at need
    cases need

theorem alloc_wrong (bound : session.bound = some .this) (fits : size ≤ largestBuffer)
    (wrong : Library.reported (size + session.library.allocDelta) ≠ size)
    (released : freeQuietly ⟨some (session.library.made + 1),Library.reported (size + session.library.allocDelta)⟩
      (session.withRoom size) = .ok () after) : alloc size session = .error
        (.disagreement (.wrongAllocation size (toString (Library.reported (size + session.library.allocDelta))))) after := by
  simp only [alloc]
  rw [if_neg (Int.not_lt.mpr fits),seq_ok (needLibrary_bound bound),seq_ok (make_run size),if_neg wrong,seq_ok released]
  rfl

theorem fill_ok {write : Write Unit} {writer : Writer} (length : 0 ≤ buffer.length) (data : buffer.id.isSome)
    (done : write (Writer.ofSize buffer.length.toNat) = .ok () writer) : fill buffer write session =
      .ok () { session with library := session.library.store buffer (writer.filled ++ writer.residue) } := by
  simp only [fill]
  rw [seq_ok (checkAddress_ok length (fun _ => data)),done]
  rfl

theorem fill_error {write : Write Unit} {writer : Writer} (length : 0 ≤ buffer.length) (data : buffer.id.isSome)
    (failed : write (Writer.ofSize buffer.length.toNat) = .error fault writer) : fill buffer write session =
      .error fault { session with library := session.library.store buffer (writer.filled ++ writer.residue) } := by
  simp only [fill]
  rw [seq_ok (checkAddress_ok length (fun _ => data)),failed]
  rfl

theorem freeAll_ok (buffers : List Buffer) (session : Session) : ∃ after, freeAll buffers session = .ok () after := by
  induction buffers generalizing session with
  | nil => exact ⟨session,rfl⟩
  | cons buffer rest ih =>
    obtain ⟨later,released⟩ := freeQuietly_ok buffer session
    obtain ⟨after,done⟩ := ih later
    refine ⟨after,?_⟩
    simp only [freeAll]
    rw [seq_ok released,done]

theorem guardingAll_ok {buffers : List Buffer} {action : Act α} (done : action session = .ok value after) :
    guardingAll buffers action session = .ok value after := by rw [guardingAll,done]

theorem guardingAll_error {buffers : List Buffer} {action : Act α} (failed : action session = .error fault after) :
    ∃ later, freeAll buffers after = .ok () later ∧ guardingAll buffers action session = .error fault later := by
  obtain ⟨later,released⟩ := freeAll_ok buffers after
  refine ⟨later,released,?_⟩
  rw [guardingAll,failed]
  dsimp only
  rw [seq_ok released]
  rfl

theorem respond_fails (symbol : String) (arguments : List Lowered) (reply : Reply Value) :
    respond symbol arguments reply true session = .error .callFailed { session with
      events := session.events ++ [.call symbol (arguments.map (passed session.library))] } := rfl

theorem respond_returns (symbol : String) (arguments : List Lowered) (reply : Reply Value) :
    respond symbol arguments reply false session = answer reply
      ((arguments.filterMap Lowered.buffer?).head?.map session.library.content) (session.afterCall symbol arguments) := rfl

theorem foreignCall_bound (symbol : String) (arguments : List Lowered) (reply : Reply Value) (fails : Bool)
    (bound : session.bound = some .this) :
    foreignCall symbol arguments reply fails session = respond symbol arguments reply fails session := by
  simp only [foreignCall]
  rw [seq_ok (needLibrary_bound bound)]

theorem call_bound (model : Model) (function : Function) (values : List Value) (reply : Reply Value) (fails : Bool)
    (bound : session.bound = some .this) (count : values.length = function.arguments.length) :
    call model function values reply fails session = (do
      let lowered ← lowerAll model [] (function.arguments.zip values)
      let returned ← guardingAll (lowered.filterMap Lowered.buffer?)
        (foreignCall (model.symbol function.name) lowered reply fails)
      match function.returns with
      | none => return .null
      | some type => lift model type returned : Act Value) session := by
  simp only [call]
  rw [if_neg (not_not_intro count)]
  split
  · exact seq_ok (needLibrary_bound bound)
  · rfl

end Act
end NativeBinding
