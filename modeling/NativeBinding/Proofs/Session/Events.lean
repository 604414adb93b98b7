import NativeBinding.Proofs.Session.Actions

namespace NativeBinding
open Wire

def Event.isFree : Event → Bool
  | .free _ => true
  | _ => false

namespace Act

-- An action that shows the component nothing but events of one kind, after those that
-- were shown before.
def Shows (kind : Event → Prop) (action : Act α) : Prop :=
  ∀ session, ∃ extra, (reached (action session)).events = session.events ++ extra ∧ ∀ event ∈ extra, kind event

variable {kind : Event → Prop}

theorem shows_nothing {action : Act α} (same : ∀ session, (reached (action session)).events = session.events) :
    Shows kind action := fun session => ⟨[],by rw [same,List.append_nil],by simp⟩

theorem shows_pure (value : α) : Shows kind (pure value) := shows_nothing (fun _ => rfl)

theorem shows_throw (fault : Fault) : Shows kind (throw fault : Act α) := shows_nothing (fun _ => rfl)

theorem shows_get : Shows kind (get : Act Session) := shows_nothing (fun _ => rfl)

theorem shows_result (result : Except Fault α) : Shows kind (ofResult result) := by
  cases result with
  | ok value => exact shows_pure value
  | error fault => exact shows_throw fault

theorem shows_onLibrary (change : Library → Library) : Shows kind (onLibrary change) := shows_nothing (fun _ => rfl)

theorem shows_warn (text : String) : Shows kind (warn text) := shows_nothing (fun _ => rfl)

theorem shows_emit (shown : kind event) : Shows kind (emit event) :=
  fun _ => ⟨[event],rfl,fun _ member => List.mem_singleton.mp member ▸ shown⟩

theorem Shows.split {action : Act β} {first : Act α} {next : α → Act β} {other : Fault → Act β} (one : Shows kind first)
    (two : ∀ value, Shows kind (next value)) (three : ∀ fault, Shows kind (other fault))
    (ok : ∀ session value after, first session = .ok value after → action session = next value after)
    (error : ∀ session fault after, first session = .error fault after → action session = other fault after) :
    Shows kind action := by
  intro session
  obtain ⟨extra,same,all⟩ := one session
  have chain {second : Act β} (shows : Shows kind second) {after : Session} (same : after.events = session.events ++ extra) :
      ∃ extra, (reached (second after)).events = session.events ++ extra ∧ ∀ event ∈ extra, kind event := by
    obtain ⟨more,same',others⟩ := shows after
    refine ⟨extra ++ more,by rw [same',same,List.append_assoc],?_⟩
    intro event member
    rcases List.mem_append.mp member with early | late
    · exact all event early
    · exact others event late
  cases run : first session with
  | ok value after =>
    rw [run] at same
    rw [ok _ _ _ run]
    exact chain (two value) same
  | error fault after =>
    rw [run] at same
    rw [error _ _ _ run]
    exact chain (three fault) same

theorem Shows.seq {first : Act α} {next : α → Act β} (one : Shows kind first) (two : ∀ value, Shows kind (next value)) :
    Shows kind (first >>= next) :=
  one.split two shows_throw (fun _ _ _ run => seq_ok run) (fun _ _ _ run => seq_error run)

theorem shows_needLibrary : Shows kind needLibrary := by
  refine shows_get.seq (fun session => ?_)
  split
  · exact shows_throw _
  · exact shows_pure _
  · exact shows_throw _

theorem shows_checkAddress (buffer : Buffer) : Shows kind (checkAddress buffer) := by
  simp only [checkAddress]
  split
  · exact shows_throw _
  · split
    · exact shows_throw _
    · exact shows_pure _

theorem shows_scan (buffer : Buffer) (read : Read α) : Shows kind (scan buffer read) := by
  refine (shows_checkAddress buffer).seq (fun _ => shows_get.seq (fun session => (shows_result _).seq (fun unread => ?_)))
  split
  · exact shows_pure _
  · exact shows_throw _

theorem shows_fill (buffer : Buffer) (write : Write Unit) : Shows kind (fill buffer write) := by
  refine (shows_checkAddress buffer).seq (fun _ => ?_)
  split
  · exact shows_onLibrary _
  · exact (shows_onLibrary _).seq (fun _ => shows_throw _)

section
variable (frees : ∀ number, kind (.free number))
include frees

theorem shows_release (buffer : Buffer) : Shows kind (release buffer) := by
  refine shows_get.seq (fun session => (shows_emit (frees _)).seq (fun _ => ?_))
  split
  · exact shows_throw _
  · exact shows_onLibrary _

theorem shows_free (buffer : Buffer) : Shows kind (free buffer) :=
  shows_needLibrary.seq (fun _ => shows_release frees buffer)

theorem shows_freeQuietly (buffer : Buffer) : Shows kind (freeQuietly buffer) := by
  refine (shows_free frees buffer).split (fun _ => shows_pure ()) (fun _ => shows_warn quietWarning) ?_ ?_
  · intro session _ after run
    rw [freeQuietly,run]
    rfl
  · intro session fault after run
    rw [freeQuietly,run]

theorem shows_freeAll (buffers : List Buffer) : Shows kind (freeAll buffers) := by
  induction buffers with
  | nil => exact shows_pure ()
  | cons buffer rest ih => exact (shows_freeQuietly frees buffer).seq (fun _ => ih)

theorem shows_guarding (buffer : Buffer) {action : Act α} (shows : Shows kind action) : Shows kind (guarding buffer action) := by
  refine shows.split shows_pure (fun fault => (shows_freeQuietly frees buffer).seq (fun _ => shows_throw fault)) ?_ ?_
  · intro session value after run
    exact guarding_ok run
  · intro session fault after run
    rw [guarding,run]

theorem shows_liftBuffer (model : Model) (type : TypeRef) (buffer : Buffer) : Shows kind (liftBuffer model type buffer) :=
  (shows_guarding frees buffer (shows_scan buffer _)).seq (fun value =>
    (shows_free frees buffer).seq (fun _ => shows_pure value))

theorem shows_releaseStandIn (value : Value) : Shows kind (releaseStandIn value) := by
  refine (shows_result _).seq (fun data => ?_)
  split
  · exact shows_throw _
  · refine (shows_emit (frees _)).seq (fun _ => shows_get.seq (fun session => ?_))
    split
    · exact shows_throw _
    · exact shows_pure _

theorem shows_freeStandIn (value : Value) : Shows kind (freeStandIn value) :=
  shows_needLibrary.seq (fun _ => shows_releaseStandIn frees value)

theorem shows_freeStandInQuietly (value : Value) : Shows kind (freeStandInQuietly value) := by
  refine (shows_freeStandIn frees value).split (fun _ => shows_pure ()) (fun _ => shows_warn quietWarning) ?_ ?_
  · intro session _ after run
    rw [freeStandInQuietly,run]
    rfl
  · intro session fault after run
    rw [freeStandInQuietly,run]

theorem shows_guardingStandIn (value : Value) {action : Act Value} (shows : Shows kind action) :
    Shows kind (liftStandIn.guardingStandIn value action) := by
  refine shows.split shows_pure (fun fault => (shows_freeStandInQuietly frees value).seq (fun _ => shows_throw fault)) ?_ ?_
  · intro session lifted after run
    rw [liftStandIn.guardingStandIn,run]
    rfl
  · intro session fault after run
    rw [liftStandIn.guardingStandIn,run]

theorem shows_liftStandIn (model : Model) (type : TypeRef) (value : Value) : Shows kind (liftStandIn model type value) := by
  refine (shows_guardingStandIn frees value ?_).seq (fun lifted =>
    (shows_freeStandIn frees value).seq (fun _ => shows_pure lifted))
  refine (shows_result _).seq (fun content => ?_)
  split
  · exact shows_pure _
  · exact shows_throw _

theorem shows_lift (model : Model) (type : TypeRef) (returned : Returned) : Shows kind (lift model type returned) := by
  unfold lift
  split
  · exact shows_result _
  · exact shows_result _
  · exact shows_result _
  · exact shows_result _
  · exact shows_pure _
  · exact shows_result _
  · exact shows_result _
  · cases returned with
    | buffer buffer => exact shows_liftBuffer frees model _ buffer
    | value value => exact shows_liftStandIn frees model _ value
    | null => exact shows_liftStandIn frees model _ .null

end

end Act
end NativeBinding
