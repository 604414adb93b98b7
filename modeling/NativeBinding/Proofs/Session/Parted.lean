import NativeBinding.Proofs.Session.Custody
import NativeBinding.Proofs.Session.Events

namespace NativeBinding
open Wire

def Session.failing (session : Session) (fails : Bool) : Session :=
  { session with library := { session.library with failFree := fails } }

-- Nothing has been released or complained about, and the numbers held are all different
-- from each other and from those that are still to be given.
structure Quiet (owner : Option Owner) (held : List Nat) (session : Session) : Prop where
  bound : session.bound = owner
  log : session.log = []
  unseen : session.events.countP Event.isFree = 0
  distinct : held.Nodup
  made : ∀ number ∈ held, number ≤ session.library.made

def idsOf (buffers : List Buffer) : List Nat := buffers.flatMap (fun buffer => buffer.id.toList)

theorem idsOf_append (buffers others : List Buffer) : idsOf (buffers ++ others) = idsOf buffers ++ idsOf others :=
  List.flatMap_append

def warnings (events : List Event) : List Report :=
  List.replicate (events.countP Event.isFree) ⟨.warning,Act.quietWarning⟩

-- Two sessions in which the same has gone wrong, with releases that work in one of them
-- and fail in the other. Buffers that are still held are live in both or in none. Without
-- the component no release gets anywhere, and nothing tells the two apart.
structure Parted (owner : Option Owner) (held : List Nat) (off on : Session) : Prop where
  left : off.bound = owner
  right : on.bound = owner
  frees : off.library.failFree = false
  fails : on.library.failFree = true
  events : off.events = on.events
  distinct : held.Nodup
  live : ∀ number ∈ held, number ∈ off.library.ids ↔ number ∈ on.library.ids
  reached : owner = some .this → off.log = [] ∧ on.log = warnings on.events
  unreached : owner ≠ some .this → off.log = on.log ∧ off.library.ids = on.library.ids ∧
    on.events.countP Event.isFree = 0

namespace Quiet
variable {owner : Option Owner} {held : List Nat} {session : Session}

theorem parted (quiet : Quiet owner held session) :
    Parted owner held (session.failing false) (session.failing true) where
  left := quiet.bound
  right := quiet.bound
  frees := rfl
  fails := rfl
  events := rfl
  distinct := quiet.distinct
  live := fun _ _ => Iff.rfl
  reached := fun _ => by
    refine ⟨quiet.log,?_⟩
    change session.log = warnings session.events
    rw [quiet.log,warnings,quiet.unseen]
    rfl
  unreached := fun _ => ⟨rfl,rfl,quiet.unseen⟩

theorem same {later : Session} (quiet : Quiet owner held session) (bound : later.bound = session.bound)
    (log : later.log = session.log) (events : later.events = session.events)
    (made : session.library.made ≤ later.library.made) : Quiet owner held later where
  bound := bound.trans quiet.bound
  log := log.trans quiet.log
  unseen := events ▸ quiet.unseen
  distinct := quiet.distinct
  made := fun number member => (quiet.made number member).trans made

theorem shows {event : Event} (quiet : Quiet owner held session) (other : event.isFree = false) :
    Quiet owner held { session with events := session.events ++ [event] } where
  bound := quiet.bound
  log := quiet.log
  unseen := by simp [List.countP_append,quiet.unseen,other]
  distinct := quiet.distinct
  made := quiet.made

theorem next (quiet : Quiet owner held session) (size : Int) :
    Quiet owner ((session.library.made + 1) :: held) (session.withRoom size) where
  bound := quiet.bound
  log := quiet.log
  unseen := by simp [Session.withRoom,List.countP_append,quiet.unseen,Event.isFree]
  distinct := List.nodup_cons.mpr ⟨fun member => Nat.not_succ_le_self _ (quiet.made _ member),quiet.distinct⟩
  made := by
    intro number member
    rcases List.mem_cons.mp member with rfl | old
    · exact Nat.le_refl _
    · exact Nat.le_succ_of_le (quiet.made number old)

theorem drops {fewer : List Nat} (quiet : Quiet owner held session) (sub : fewer.Sublist held) :
    Quiet owner fewer session where
  bound := quiet.bound
  log := quiet.log
  unseen := quiet.unseen
  distinct := sub.nodup quiet.distinct
  made := fun number member => quiet.made number (sub.subset member)

theorem perm {other : List Nat} (quiet : Quiet owner held session) (same : held.Perm other) :
    Quiet owner other session where
  bound := quiet.bound
  log := quiet.log
  unseen := quiet.unseen
  distinct := same.nodup_iff.mp quiet.distinct
  made := fun number member => quiet.made number (same.mem_iff.mpr member)

end Quiet

def Act.Passes (action : Act Unit) (off on : Session) (met : Session → Session → Prop) : Prop :=
  ∃ less more, action off = .ok () less ∧ action on = .ok () more ∧ met less more

namespace Parted
variable {owner : Option Owner} {held : List Nat} {off on : Session} {buffer : Buffer}

theorem rest (parted : Parted owner (buffer.id.toList ++ held) off on) : held.Nodup :=
  (List.nodup_append.mp parted.distinct).2.1

theorem other (parted : Parted owner (buffer.id.toList ++ held) off on) (member : number ∈ held) : buffer.id ≠ some number := by
  intro id
  refine (List.nodup_append.mp parted.distinct).2.2 number ?_ number member rfl
  rw [id]
  exact List.mem_cons_self

theorem shown (parted : Parted owner (buffer.id.toList ++ held) off on) :
    Act.shown off.library buffer = Act.shown on.library buffer := by
  have live : off.library.isLive buffer = on.library.isLive buffer := by
    refine Bool.eq_iff_iff.mpr ?_
    rw [Library.isLive_iff,Library.isLive_iff]
    refine exists_congr (fun number => and_congr_left (fun id => parted.live number ?_))
    rw [id]
    exact List.mem_cons_self
  rw [Act.shown,Act.shown,live]

theorem warnings_shown (library : Library) (buffer : Buffer) (events : List Event) :
    warnings (events ++ [Act.shown library buffer]) = warnings events ++ [⟨.warning,Act.quietWarning⟩] := by
  rw [warnings,List.countP_append,List.replicate_add]
  rfl

theorem freeQuietly_reached (parted : Parted owner (buffer.id.toList ++ held) off on) (bound : owner = some .this) :
    (Act.freeQuietly buffer).Passes off on (Parted owner held) := by
  have released := Act.release_ok buffer parted.frees
  have failed := Act.release_error buffer parted.fails
  rw [← Act.free_bound buffer (parted.left.trans bound)] at released
  rw [← Act.free_bound buffer (parted.right.trans bound)] at failed
  obtain ⟨quiet,warned⟩ := parted.reached bound
  refine ⟨_,_,by rw [Act.freeQuietly,released],by rw [Act.freeQuietly,failed]; rfl,?_⟩
  refine ⟨parted.left,parted.right,parted.frees,parted.fails,?_,parted.rest,?_,?_,fun other => absurd bound other⟩
  · exact congrArg₂ (fun events event => events ++ [event]) parted.events parted.shown
  · intro number member
    simp only [Library.mem_ids_drop,parted.other member,ne_eq,not_false_eq_true,and_true]
    exact parted.live number (List.mem_append_right _ member)
  · intro _
    refine ⟨quiet,?_⟩
    rw [warnings_shown,← warned]

theorem freeQuietly_unreached (parted : Parted owner (buffer.id.toList ++ held) off on) (unbound : owner ≠ some .this) :
    (Act.freeQuietly buffer).Passes off on (Parted owner held) := by
  obtain ⟨log,ids,unseen⟩ := parted.unreached unbound
  obtain ⟨_,left⟩ := Act.free_unbound buffer (parted.left ▸ unbound)
  obtain ⟨_,right⟩ := Act.free_unbound buffer (parted.right ▸ unbound)
  refine ⟨_,_,by rw [Act.freeQuietly,left]; rfl,by rw [Act.freeQuietly,right]; rfl,?_⟩
  refine ⟨parted.left,parted.right,parted.frees,parted.fails,parted.events,parted.rest,?_,?_,fun _ => ?_⟩
  · intro number member
    exact parted.live number (List.mem_append_right _ member)
  · intro bound
    exact absurd bound unbound
  · exact ⟨congrArg (fun log => log ++ [⟨.warning,Act.quietWarning⟩]) log,ids,unseen⟩

theorem freeQuietly (parted : Parted owner (buffer.id.toList ++ held) off on) :
    (Act.freeQuietly buffer).Passes off on (Parted owner held) := by
  by_cases bound : owner = some .this
  · exact parted.freeQuietly_reached bound
  · exact parted.freeQuietly_unreached bound

theorem freeAll (buffers : List Buffer) (parted : Parted owner (idsOf buffers) off on) :
    (Act.freeAll buffers).Passes off on (Parted owner []) := by
  induction buffers generalizing off on with
  | nil => exact ⟨off,on,rfl,rfl,parted⟩
  | cons buffer rest ih =>
    obtain ⟨less,more,left,right,parted⟩ := parted.freeQuietly
    obtain ⟨less',more',left',right',parted⟩ := ih parted
    refine ⟨less',more',?_,?_,parted⟩
    · simp only [Act.freeAll]
      rw [seq_ok left,left']
    · simp only [Act.freeAll]
      rw [seq_ok right,right']

end Parted

namespace Act

-- Where an action leads whether releases work or fail: to one value and one session, or
-- to one fault and two sessions.
def Both (action : Act α) (session : Session) (done : α → Session → Prop) (failed : Session → Session → Prop) : Prop :=
  (∃ value after, (∀ fails, action (session.failing fails) = .ok value (after.failing fails)) ∧ done value after) ∨
  ∃ fault less more, action (session.failing false) = .error fault less ∧
    action (session.failing true) = .error fault more ∧ failed less more

variable {action : Act α} {session after : Session} {done : α → Session → Prop} {failed : Session → Session → Prop}

theorem both_ok (run : ∀ fails, action (session.failing fails) = .ok value (after.failing fails))
    (met : done value after) : Both action session done failed := .inl ⟨value,after,run,met⟩

theorem both_error (run : ∀ fails, action (session.failing fails) = .error fault (after.failing fails))
    (met : failed (after.failing false) (after.failing true)) : Both action session done failed :=
  .inr ⟨fault,_,_,run false,run true,met⟩

theorem both_pure (met : done value session) : Both (pure value) session done failed := both_ok (fun _ => rfl) met

theorem Both.seq {next : α → Act β} {last : β → Session → Prop} (one : Both action session done failed)
    (two : ∀ value after, done value after → Both (next value) after last failed) :
    Both (action >>= next) session last failed := by
  rcases one with ⟨value,after,run,met⟩ | ⟨fault,less,more,off,on,met⟩
  · rcases two value after met with ⟨other,later,further,met⟩ | ⟨fault,less,more,off,on,met⟩
    · exact .inl ⟨other,later,fun fails => by rw [seq_ok (run fails),further fails],met⟩
    · exact .inr ⟨fault,less,more,by rw [seq_ok (run false),off],by rw [seq_ok (run true),on],met⟩
  · exact .inr ⟨fault,less,more,seq_error off,seq_error on,met⟩

theorem Both.continues {first : Act α} {earlier : Session} (rest : Both action session done failed)
    (same : ∀ fails, first (earlier.failing fails) = action (session.failing fails)) : Both first earlier done failed := by
  rcases rest with ⟨value,after,run,met⟩ | ⟨fault,less,more,off,on,met⟩
  · exact .inl ⟨value,after,fun fails => (same fails).trans (run fails),met⟩
  · exact .inr ⟨fault,less,more,(same false).trans off,(same true).trans on,met⟩

-- What was looked at may not tell the two apart.
theorem both_get {next : Session → Act α} (same : ∀ fails, next (session.failing fails) = next session)
    (rest : Both (next session) session done failed) : Both (get >>= next) session done failed :=
  rest.continues (fun fails => (seq_ok get_run).trans (congrFun (same fails) _))

theorem Both.mono {met : α → Session → Prop} {lost : Session → Session → Prop}
    (one : Both action session done failed) (ok : ∀ value after, done value after → met value after)
    (error : ∀ less more, failed less more → lost less more) : Both action session met lost := by
  rcases one with ⟨value,after,run,held⟩ | ⟨fault,less,more,off,on,held⟩
  · exact .inl ⟨value,after,run,ok value after held⟩
  · exact .inr ⟨fault,less,more,off,on,error less more held⟩

end Act

namespace Quiet
variable {owner : Option Owner} {held : List Nat} {session : Session} {model : Model}

theorem fails {action : Act α} {done : α → Session → Prop} (quiet : Quiet owner held session)
    (run : ∀ fails, action (session.failing fails) = .error fault (session.failing fails)) :
    Act.Both action session done (Parted owner held) := Act.both_error run quiet.parted

theorem result (quiet : Quiet owner held session) (result : Except Fault α) :
    Act.Both (Act.ofResult result) session (fun _ => Quiet owner held) (Parted owner held) := by
  cases result with
  | ok value => exact Act.both_ok (fun _ => rfl) quiet
  | error fault => exact quiet.fails (fun _ => rfl)

theorem needLibrary (quiet : Quiet owner held session) :
    Act.Both Act.needLibrary session (fun _ after => owner = some .this ∧ Quiet owner held after) (Parted owner held) := by
  by_cases bound : session.bound = some .this
  · exact Act.both_ok (fun fails => Act.needLibrary_bound bound) ⟨quiet.bound.symm.trans bound,quiet⟩
  · have run (fails : Bool) : Act.needLibrary (session.failing fails) = .error (if session.bound.isNone
        then (Library.problem? session.file).getD .missingAttribute else .missingAttribute) (session.failing fails) :=
      @Act.needLibrary_unbound (session.failing fails) bound
    exact quiet.fails run

theorem checkAddress (quiet : Quiet owner held session) (buffer : Buffer) :
    Act.Both (Act.checkAddress buffer) session (fun _ => Quiet owner held) (Parted owner held) := by
  simp only [Act.checkAddress]
  split
  · exact quiet.fails (fun _ => rfl)
  · split
    · exact quiet.fails (fun _ => rfl)
    · exact Act.both_pure quiet

theorem fill (quiet : Quiet owner held session) (buffer : Buffer) (write : Write Unit) :
    Act.Both (Act.fill buffer write) session (fun _ => Quiet owner held) (Parted owner held) := by
  refine (quiet.checkAddress buffer).seq (fun _ after quiet => ?_)
  have stored (written : List UInt8) : Quiet owner held { after with library := after.library.store buffer written } :=
    quiet.same rfl rfl rfl (Nat.le_refl _)
  cases write (Writer.ofSize buffer.length.toNat) with
  | ok _ writer => exact Act.both_ok (fun _ => rfl) (stored (writer.filled ++ writer.residue))
  | error fault writer => exact Act.both_error (fun _ => rfl) (stored (writer.filled ++ writer.residue)).parted

theorem scan (quiet : Quiet owner held session) (buffer : Buffer) (read : Read α) :
    Act.Both (Act.scan buffer read) session (fun _ => Quiet owner held) (Parted owner held) := by
  refine (quiet.checkAddress buffer).seq (fun _ after quiet => ?_)
  refine Act.both_get (fun _ => rfl) ((quiet.result _).seq (fun unread later quiet => ?_))
  cases read unread with
  | ok value => exact Act.both_pure quiet
  | error fault => exact quiet.fails (fun _ => rfl)

theorem guarded {action : Act α} {done : α → Session → Prop}
    (run : Act.Both action session done (Parted owner (buffer.id.toList ++ held))) :
    Act.Both (Act.guarding buffer action) session done (Parted owner held) := by
  rcases run with ⟨value,after,run,met⟩ | ⟨fault,less,more,off,on,parted⟩
  · exact .inl ⟨value,after,fun fails => Act.guarding_ok (run fails),met⟩
  · obtain ⟨less',more',left,right,parted⟩ := parted.freeQuietly
    refine .inr ⟨fault,less',more',?_,?_,parted⟩
    · rw [Act.guarding,off]
      exact seq_ok left
    · rw [Act.guarding,on]
      exact seq_ok right

theorem alloc (quiet : Quiet owner held session) (size : Int) : Act.Both (Act.alloc size) session
    (fun buffer => Quiet owner (buffer.id.toList ++ held)) (Parted owner held) := by
  by_cases large : Act.largestBuffer < size
  · exact quiet.fails (fun fails => Act.alloc_oversized large)
  · simp only [Act.alloc]
    rw [if_neg large]
    refine quiet.needLibrary.seq (fun _ after found => ?_)
    have quiet := found.2
    have made : Act.Both (Act.make size) after (fun buffer => Quiet owner (buffer.id.toList ++ held)) (Parted owner held) :=
      .inl ⟨⟨some (after.library.made + 1),Library.reported (size + after.library.allocDelta)⟩,after.withRoom size,
        fun _ => rfl,quiet.next size⟩
    refine made.seq (fun buffer later quiet => ?_)
    split
    · exact Act.both_pure quiet
    · obtain ⟨less,more,left,right,parted⟩ := quiet.parted.freeQuietly
      exact .inr ⟨_,less,more,seq_ok left,seq_ok right,parted⟩

theorem lowerBuffer (quiet : Quiet owner held session) (type : TypeRef) (value : Value) :
    Act.Both (Act.lowerBuffer model type value) session (fun buffer => Quiet owner (buffer.id.toList ++ held))
      (Parted owner held) := by
  refine (quiet.result _).seq (fun size after quiet => ?_)
  refine (quiet.alloc size).seq (fun buffer after quiet => ?_)
  have filled := guarded (quiet.fill buffer (do model.encode type value; Write.finish))
  exact filled.seq (fun _ after quiet => Act.both_pure quiet)

theorem lower (quiet : Quiet owner held session) (type : TypeRef) (value : Value) : Act.Both (Act.lower model type value) session
    (fun lowered => Quiet owner (idsOf lowered.buffer?.toList ++ held)) (Parted owner held) := by
  unfold Act.lower
  split
  · exact Act.both_pure quiet
  · exact Act.both_pure quiet
  · exact Act.both_pure quiet
  · exact Act.both_pure quiet
  · exact Act.both_pure quiet
  · exact (quiet.result _).seq (fun _ _ quiet => Act.both_pure quiet)
  · exact (quiet.result _).seq (fun _ _ quiet => Act.both_pure quiet)
  · refine (quiet.lowerBuffer type value).seq (fun buffer after quiet => Act.both_pure ?_)
    rwa [Lowered.buffer?,Option.toList,idsOf,List.flatMap_singleton]

theorem guardedAll {buffers : List Buffer} {action : Act α} {done : α → Session → Prop}
    (run : Act.Both action session done (Parted owner (idsOf buffers))) :
    Act.Both (Act.guardingAll buffers action) session done (Parted owner []) := by
  rcases run with ⟨value,after,run,met⟩ | ⟨fault,less,more,off,on,parted⟩
  · exact .inl ⟨value,after,fun fails => Act.guardingAll_ok (run fails),met⟩
  · obtain ⟨less',more',left,right,parted⟩ := parted.freeAll buffers
    refine .inr ⟨fault,less',more',?_,?_,parted⟩
    · rw [Act.guardingAll,off]
      exact seq_ok left
    · rw [Act.guardingAll,on]
      exact seq_ok right

-- Where an argument cannot be lowered, those before it are released in turn, and each of
-- these releases may fail.
theorem lowerAll (rest : List (Field × Value)) {buffers : List Buffer} (quiet : Quiet owner (idsOf buffers) session) :
    Act.Both (Act.lowerAll model buffers rest) session
      (fun lowered => Quiet owner (idsOf (buffers ++ lowered.filterMap Lowered.buffer?))) (Parted owner []) := by
  induction rest generalizing buffers session with
  | nil => exact Act.both_pure (by rwa [List.filterMap_nil,List.append_nil])
  | cons argument rest ih =>
    obtain ⟨field,value⟩ := argument
    have first : Act.Both (Act.lower model field.type value) session
      (fun lowered => Quiet owner (idsOf lowered.buffer?.toList ++ idsOf buffers)) (Parted owner (idsOf buffers)) :=
        quiet.lower field.type value
    rcases first with ⟨lowered,after,run,quiet⟩ | ⟨fault,less,more,off,on,parted⟩
    · have quiet : Quiet owner (idsOf (buffers ++ lowered.buffer?.toList)) after := by
        rw [idsOf_append]
        exact quiet.perm List.perm_append_comm
      have others : Act.Both (do
          let others ← Act.lowerAll model (buffers ++ lowered.buffer?.toList) rest
          return lowered :: others : Act (List Lowered)) after
          (fun lowered => Quiet owner (idsOf (buffers ++ lowered.filterMap Lowered.buffer?))) (Parted owner []) := by
        refine (ih quiet).seq (fun others later quiet => Act.both_pure ?_)
        rw [List.append_assoc] at quiet
        cases lowered <;> exact quiet
      exact others.continues (fun fails => by simp only [Act.lowerAll,run fails])
    · obtain ⟨less',more',left,right,parted⟩ := parted.freeAll buffers
      refine .inr ⟨fault,less',more',?_,?_,parted⟩
      · simp only [Act.lowerAll,off]
        exact seq_ok left
      · simp only [Act.lowerAll,on]
        exact seq_ok right

end Quiet
end NativeBinding
