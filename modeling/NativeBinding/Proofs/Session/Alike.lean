import NativeBinding.Proofs.Session.Renumbering

namespace NativeBinding
open Wire

-- What every session keeps that starts with an empty component.
structure Session.Consistent (file : String) (session : Session) : Prop where
  sound : session.library.Sound
  file : session.file = file
  counted : ∀ event ∈ session.events, ∀ number ∈ event.numbers, 0 < number

inductive ResultsAlike (past : Library) (file : String) (Same : α → β → Prop) :
    EStateM.Result Fault Session α → EStateM.Result Fault Session β → Prop
  | ok (consistent : session.Consistent file) (same : Same a b) :
    ResultsAlike past file Same (.ok a session) (.ok b (session.continuing past))
  | error (consistent : session.Consistent file) :
    ResultsAlike past file Same (.error fault session) (.error fault (session.continuing past))

namespace Act

-- Two actions that do the same, each with the buffers of its own component.
def Alike (past : Library) (file : String) (Same : α → β → Prop) (one : Act α) (other : Act β) : Prop :=
  ∀ session : Session, session.Consistent file → ResultsAlike past file Same (one session) (other (session.continuing past))

def either (first : Act α) (next : α → Act β) (other : Fault → Act β) : Act β := fun session =>
  match first session with
  | .ok value after => next value after
  | .error fault after => other fault after

theorem seq_either (first : Act α) (next : α → Act β) : (first >>= next) = either first next throw := by
  funext session
  change EStateM.bind first next session = _
  simp only [EStateM.bind,either]
  cases first session <;> rfl

theorem freeQuietly_either (buffer : Buffer) :
    freeQuietly buffer = either (free buffer) (fun _ => pure ()) (fun _ => warn quietWarning) := by
  funext session
  simp only [freeQuietly,either]
  cases free buffer session <;> rfl

section
variable {past : Library} {file : String} {Same : α → β → Prop} {Last : γ → δ → Prop}

theorem Alike.either {one : Act α} {other : Act β} (first : Alike past file Same one other)
    {next : α → Act γ} {next' : β → Act δ} {lost : Fault → Act γ} {lost' : Fault → Act δ}
    (ok : ∀ a b, Same a b → Alike past file Last (next a) (next' b))
    (error : ∀ fault, Alike past file Last (lost fault) (lost' fault)) :
    Alike past file Last (one.either next lost) (other.either next' lost') := by
  intro session consistent
  have carried := first session consistent
  unfold Act.either
  generalize one session = left at *
  generalize other (session.continuing past) = right at *
  cases carried with
  | ok consistent same => exact ok _ _ same _ consistent
  | error consistent => exact error _ _ consistent

theorem alike_pure (same : Same a b) : Alike past file Same (pure a) (pure b) := fun _ consistent => .ok consistent same

theorem alike_throw (fault : Fault) : Alike past file Same (throw fault) (throw fault) := fun _ consistent => .error consistent

theorem Alike.seq {one : Act α} {other : Act β} (first : Alike past file Same one other) {next : α → Act γ} {next' : β → Act δ}
    (ok : ∀ a b, Same a b → Alike past file Last (next a) (next' b)) :
    Alike past file Last (one >>= next) (other >>= next') := by
  rw [seq_either,seq_either]
  exact first.either ok alike_throw

theorem alike_result (result : Except Fault α) : Alike past file Eq (ofResult result) (ofResult result) := by
  cases result with
  | ok value => exact alike_pure rfl
  | error fault => exact alike_throw fault

-- What has been got need not be the session that is gone on from: an action that puts back
-- what it got puts back a consistent one.
theorem alike_get : Alike past file (fun session later => session.Consistent file ∧ later = session.continuing past) get get :=
  fun _ consistent => .ok consistent ⟨consistent,rfl⟩

theorem alike_set {session : Session} (consistent : session.Consistent file) :
    Alike past file Eq (set session : Act PUnit) (set (session.continuing past)) := fun _ _ => .ok consistent rfl

theorem alike_warn (text : String) : Alike past file Eq (warn text) (warn text) :=
  fun _ consistent => .ok ⟨consistent.sound,consistent.file,consistent.counted⟩ rfl

theorem alike_emit {event : Event} (counted : ∀ number ∈ event.numbers, 0 < number) :
    Alike past file Eq (emit event) (emit (event.renumber (past.made + ·))) := by
  intro session consistent
  have shown : ∀ seen ∈ session.events ++ [event], ∀ number ∈ seen.numbers, 0 < number :=
    List.forall_mem_append.mpr ⟨consistent.counted,List.forall_mem_singleton.mpr counted⟩
  have after : Session.Consistent file { session with events := session.events ++ [event] } :=
    ⟨consistent.sound,consistent.file,shown⟩
  have carried : ResultsAlike past file Eq (.ok () _) (.ok () _) := .ok after rfl
  simp only [Session.continuing,List.map_append,List.map_singleton] at carried
  exact carried

theorem alike_onLibrary {change change' : Library → Library} (sound : ∀ library, library.Sound → (change library).Sound)
    (same : ∀ library, change' (library.continuing past) = (change library).continuing past) :
    Alike past file Eq (onLibrary change) (onLibrary change') := by
  intro session consistent
  have after : Session.Consistent file { session with library := change session.library } :=
    ⟨sound _ consistent.sound,consistent.file,consistent.counted⟩
  have carried : ResultsAlike past file Eq (.ok () _) (.ok () _) := .ok after rfl
  simp only [Session.continuing,← same] at carried
  exact carried

end

section
variable {past : Library} {file : String} {one other : Buffer} {model : Model}

theorem alike_needLibrary : Alike past file Eq needLibrary needLibrary := by
  refine alike_get.seq ?_
  rintro session _ ⟨consistent,rfl⟩
  have same : (session.continuing past).bound = session.bound := rfl
  have named : (session.continuing past).file = session.file := rfl
  rw [same,named]
  cases session.bound with
  | none => exact alike_throw _
  | some owner =>
    cases owner with
    | this => exact alike_pure rfl
    | other => exact alike_throw _

variable (sound : past.Sound)
include sound

theorem alike_release (renumbered : one.Renumbered past other) : Alike past file Eq (release one) (release other) := by
  refine alike_get.seq ?_
  rintro session _ ⟨consistent,rfl⟩
  have shown : (Event.free (if (session.continuing past).library.isLive other then other.id else none)) =
      (Event.free (if session.library.isLive one then one.id else none)).renumber (past.made + ·) := by
    rw [show (session.continuing past).library.isLive other = _ from Library.isLive_continuing sound renumbered,renumbered.same]
    split <;> rfl
  rw [shown]
  refine (alike_emit ?_).seq fun _ _ _ => ?_
  · intro number member
    split at member
    · refine Nat.pos_of_ne_zero ?_
      rintro rfl
      exact renumbered.counted (Option.mem_toList.mp member)
    · cases member
  · change Alike past file Eq _ (if session.library.failFree then throw .releaseFailed else _)
    split
    · exact alike_throw _
    · exact alike_onLibrary (fun _ sound => sound.drop) (fun _ => Library.drop_continuing sound renumbered)

theorem alike_free (renumbered : one.Renumbered past other) : Alike past file Eq (free one) (free other) :=
  alike_needLibrary.seq fun _ _ _ => alike_release sound renumbered

theorem alike_freeQuietly (renumbered : one.Renumbered past other) : Alike past file Eq (freeQuietly one) (freeQuietly other) := by
  rw [freeQuietly_either,freeQuietly_either]
  exact (alike_free sound renumbered).either (fun _ _ _ => alike_pure rfl) fun _ => alike_warn quietWarning

theorem alike_guarding {Same : α → β → Prop} (renumbered : one.Renumbered past other) {action : Act α} {action' : Act β}
    (alike : Alike past file Same action action') : Alike past file Same (guarding one action) (guarding other action') :=
  alike.either (fun _ _ same => alike_pure same) fun fault => (alike_freeQuietly sound renumbered).seq fun _ _ _ => alike_throw fault

omit sound in
theorem alike_make (size : Int) : Alike past file (Buffer.Renumbered past) (make size) (make size) := by
  intro session consistent
  have more : ∀ seen ∈ (session.withRoom size).events, ∀ number ∈ seen.numbers, 0 < number := by
    refine List.forall_mem_append.mpr ⟨consistent.counted,List.forall_mem_singleton.mpr ?_⟩
    intro number member
    rw [List.mem_singleton.mp member]
    exact Nat.succ_pos _
  have moved : (session.continuing past).withRoom size = (session.withRoom size).continuing past := by
    simp only [Session.withRoom,Session.continuing,List.map_append,List.map_singleton]
    congr 1
    exact Library.make_continuing _ _ _
  have sound := consistent.sound.make size.toNat [] (size + session.library.allocDelta)
  have after : (session.withRoom size).Consistent file := ⟨sound,consistent.file,more⟩
  rw [make_run,make_run,moved]
  exact .ok after ⟨rfl,fun zero => Nat.succ_ne_zero _ (Option.some.inj zero)⟩

theorem alike_alloc (size : Int) : Alike past file (Buffer.Renumbered past) (alloc size) (alloc size) := by
  simp only [alloc]
  split
  · exact alike_throw _
  · refine alike_needLibrary.seq fun _ _ _ => (alike_make size).seq fun buffer other renumbered => ?_
    obtain ⟨rfl,counted⟩ := renumbered
    change Alike past file _ _ (if buffer.length = size then _ else _)
    split
    · exact alike_pure ⟨rfl,counted⟩
    · exact (alike_freeQuietly sound ⟨rfl,counted⟩).seq fun _ _ _ => alike_throw _

omit sound in
theorem alike_checkAddress (renumbered : one.Renumbered past other) : Alike past file Eq (checkAddress one) (checkAddress other) := by
  have same : checkAddress other = checkAddress one := by
    have data : other.id.isNone = one.id.isNone := by rw [renumbered.same,Buffer.renumber,Option.isNone_map]
    simp only [checkAddress,data,renumbered.length]
  rw [same]
  simp only [checkAddress]
  split
  · exact alike_throw _
  · split
    · exact alike_throw _
    · exact alike_pure rfl

theorem alike_fill (renumbered : one.Renumbered past other) (write : Write Unit) :
    Alike past file Eq (fill one write) (fill other write) := by
  refine (alike_checkAddress renumbered).seq fun _ _ _ => ?_
  have stored (written : List UInt8) : Alike past file Eq (onLibrary (fun library => library.store one written))
      (onLibrary (fun library => library.store other written)) :=
    alike_onLibrary (fun _ sound => sound.store written) (fun _ => Library.store_continuing sound renumbered written)
  rw [renumbered.length]
  cases write (Writer.ofSize one.length.toNat) with
  | ok => exact stored _
  | error fault => exact (stored _).seq fun _ _ _ => alike_throw fault

theorem alike_lowerBuffer (type : TypeRef) (value : Value) :
    Alike past file (Buffer.Renumbered past) (lowerBuffer model type value) (lowerBuffer model type value) := by
  refine (alike_result _).seq ?_
  rintro size _ rfl
  refine (alike_alloc sound _).seq fun buffer other renumbered => ?_
  exact (alike_guarding sound renumbered (alike_fill sound renumbered _)).seq fun _ _ _ => alike_pure renumbered

theorem alike_scan (renumbered : one.Renumbered past other) (read : Read α) : Alike past file Eq (scan one read) (scan other read) := by
  refine (alike_checkAddress renumbered).seq fun _ _ _ => alike_get.seq ?_
  rintro session _ ⟨consistent,rfl⟩
  have content : (session.continuing past).library.content other = session.library.content one :=
    Library.content_continuing sound renumbered
  rw [content,renumbered.length]
  refine (alike_result _).seq ?_
  rintro unread _ rfl
  cases read unread with
  | ok value => exact alike_pure rfl
  | error fault => exact alike_throw fault

theorem alike_liftBuffer (renumbered : one.Renumbered past other) (type : TypeRef) :
    Alike past file Eq (liftBuffer model type one) (liftBuffer model type other) := by
  refine (alike_guarding sound renumbered (alike_scan sound renumbered _)).seq ?_
  rintro value _ rfl
  exact (alike_free sound renumbered).seq fun _ _ _ => alike_pure rfl

end

end Act
end NativeBinding
