import NativeBinding.Proofs.Session.Exchange
import NativeBinding.Proofs.Session.Lifting

namespace NativeBinding
open Wire

namespace Act

def Stays (action : Act α) (session : Session) : Prop := reached (action session) = session

section
variable {session : Session}

theorem Stays.seq {first : Act α} {next : α → Act β} (one : Stays first session) (two : ∀ value, Stays (next value) session) :
    Stays (first >>= next) session := by
  unfold Stays at *
  cases run : first session with
  | ok value after =>
    rw [run] at one
    rw [seq_ok run,show after = session from one]
    exact two value
  | error fault after =>
    rw [run] at one
    rw [seq_error run]
    exact one

theorem stays_pure (value : α) : Stays (pure value) session := rfl

theorem stays_throw (fault : Fault) : Stays (throw fault : Act α) session := rfl

theorem stays_result (result : Except Fault α) : Stays (ofResult result) session := by cases result <;> rfl

theorem stays_scan (buffer : Buffer) (read : Read α) : Stays (scan buffer read) session := by
  have checked : Stays (checkAddress buffer) session := by
    simp only [checkAddress]
    split
    · exact stays_throw _
    · split
      · exact stays_throw _
      · exact stays_pure _
  have found : Stays (get : Act Session) session := rfl
  refine checked.seq (fun _ => found.seq (fun there => (stays_result _).seq (fun unread => ?_)))
  cases read unread with
  | ok value => exact stays_pure value
  | error fault => exact stays_throw fault

def Fails (action : Act α) (session : Session) : Prop := ∃ fault, action session = .error fault session

theorem fails_throw (fault : Fault) : Fails (throw fault : Act α) session := ⟨fault,rfl⟩

theorem Fails.first {first : Act α} {next : α → Act β} (failed : Fails first session) : Fails (first >>= next) session := by
  obtain ⟨fault,failed⟩ := failed
  exact ⟨fault,seq_error failed⟩

theorem Fails.later {first : Act α} {next : α → Act β} (stays : Stays first session) (two : ∀ value, Fails (next value) session) :
    Fails (first >>= next) session := by
  unfold Stays at stays
  cases run : first session with
  | ok value after =>
    rw [run] at stays
    obtain rfl : after = session := stays
    obtain ⟨fault,failed⟩ := two value
    exact ⟨fault,(seq_ok run).trans failed⟩
  | error fault after =>
    rw [run] at stays
    obtain rfl : after = session := stays
    exact ⟨fault,seq_error run⟩

theorem fails_needLibrary (other : session.bound ≠ some .this) : Fails needLibrary session := ⟨_,needLibrary_unbound other⟩

end

section
variable {session : Session} (model : Model) (other : session.bound ≠ some .this)
include other

theorem fails_alloc (size : Int) : Fails (alloc size) session := by
  simp only [alloc]
  split
  · exact fails_throw _
  · exact (fails_needLibrary other).first

theorem fails_lowerBuffer (type : TypeRef) (value : Value) : Fails (lowerBuffer model type value) session :=
  .later (stays_result _) (fun size => (fails_alloc other size).first)

theorem lower_unbound (type : TypeRef) (value : Value) :
    Fails (lower model type value) session ∨ ∃ plain, lower model type value session = .ok (.value plain) session := by
  have shown {α : Type} (result : Except Fault α) (form : α → Value) :
      Fails (do let made ← ofResult result; return Lowered.value (form made)) session ∨
        ∃ plain, (do let made ← ofResult result; return .value (form made) : Act Lowered) session = .ok (.value plain) session := by
    cases result with
    | ok value => exact .inr ⟨_,rfl⟩
    | error fault => exact .inl ⟨fault,rfl⟩
  unfold lower
  split
  · exact .inr ⟨_,rfl⟩
  · exact .inr ⟨_,rfl⟩
  · exact .inr ⟨_,rfl⟩
  · exact .inr ⟨_,rfl⟩
  · exact .inr ⟨_,rfl⟩
  · exact shown _ Value.bytes
  · exact shown _ id
  · exact .inl (fails_lowerBuffer model other type value).first

theorem lowerAll_unbound (rest : List (Field × Value)) : Fails (lowerAll model [] rest) session ∨
    ∃ lowered, lowerAll model [] rest session = .ok lowered session ∧ lowered.filterMap Lowered.buffer? = [] := by
  induction rest with
  | nil => exact .inr ⟨[],rfl,rfl⟩
  | cons argument rest ih =>
    obtain ⟨field,value⟩ := argument
    rcases lower_unbound model other field.type value with ⟨fault,failed⟩ | ⟨plain,done⟩
    · refine .inl ⟨fault,?_⟩
      simp only [lowerAll,failed]
      rfl
    · rcases ih with ⟨fault,failed⟩ | ⟨others,run,none⟩
      · refine .inl ⟨fault,?_⟩
        simp only [lowerAll,done]
        exact seq_error failed
      · refine .inr ⟨.value plain :: others,?_,none⟩
        simp only [lowerAll,done]
        exact seq_ok run

theorem fails_call (function : Function) (values : List Value) (reply : Reply Value) (fails : Bool) :
    Fails (call model function values reply fails) session := by
  have rest (next : Returned → Act Value) : Fails (do
      let lowered ← lowerAll model [] (function.arguments.zip values)
      let returned ← guardingAll (lowered.filterMap Lowered.buffer?)
        (foreignCall (model.symbol function.name) lowered reply fails)
      next returned : Act Value) session := by
    rcases lowerAll_unbound model other (function.arguments.zip values) with failed | ⟨lowered,run,none⟩
    · exact failed.first
    · have called : Fails (foreignCall (model.symbol function.name) lowered reply fails) session := (fails_needLibrary other).first
      obtain ⟨fault,failed⟩ := called
      have guarded : guardingAll [] (foreignCall (model.symbol function.name) lowered reply fails) session = .error fault session := by
        rw [guardingAll,failed]
        rfl
      refine ⟨fault,?_⟩
      rw [seq_ok run,none]
      exact seq_error guarded
  simp only [call]
  split
  · exact fails_throw _
  · split
    · exact (fails_needLibrary other).first
    · exact rest _

-- A buffer that nothing can release stays where it is, whether or not it can be read. What
-- stands in its place is not released either.
def Keeps (action : Act α) (session : Session) : Prop :=
  Leads action session (fun _ _ => False) (fun _ after => after.events = session.events ∧ after.library = session.library)

theorem keeps_liftBuffer (type : TypeRef) (buffer : Buffer) : Keeps (liftBuffer model type buffer) session := by
  obtain ⟨problem,unfreed⟩ := free_unbound buffer other
  have stays : Stays (scan buffer (model.decodeWhole type)) session := stays_scan buffer _
  unfold Stays at stays
  rw [liftBuffer_eq]
  cases run : scan buffer (model.decodeWhole type) session with
  | ok value after =>
    rw [run] at stays
    obtain rfl : after = session := stays
    exact leads_error ((seq_ok (guarding_ok run)).trans (seq_error unfreed)) ⟨rfl,rfl⟩
  | error fault after =>
    rw [run] at stays
    obtain rfl : after = session := stays
    obtain ⟨later,released,failed⟩ := guarding_error run
    rw [freeQuietly,unfreed] at released
    cases released
    exact leads_error (seq_error failed) ⟨rfl,rfl⟩

omit model in
theorem keeps_standIn (value : Value) {action : Act Value} (stays : Stays action session) : Keeps (do
    let lifted ← liftStandIn.guardingStandIn value action
    freeStandIn value
    return lifted) session := by
  obtain ⟨problem,unfreed⟩ : Fails (freeStandIn value) session := (fails_needLibrary other).first
  unfold Stays at stays
  cases run : action session with
  | ok lifted after =>
    rw [run] at stays
    obtain rfl : after = session := stays
    have guarded : liftStandIn.guardingStandIn value action after = .ok lifted after := by rw [liftStandIn.guardingStandIn,run]
    exact leads_error ((seq_ok guarded).trans (seq_error unfreed)) ⟨rfl,rfl⟩
  | error fault after =>
    rw [run] at stays
    obtain rfl : after = session := stays
    have guarded : liftStandIn.guardingStandIn value action after =
        .error fault { after with log := after.log ++ [⟨.warning,quietWarning⟩] } := by
      have released : freeStandInQuietly value after = .ok () { after with log := after.log ++ [⟨.warning,quietWarning⟩] } := by
        rw [freeStandInQuietly,unfreed]
        rfl
      rw [liftStandIn.guardingStandIn,run]
      exact seq_ok released
    exact leads_error (seq_error guarded) ⟨rfl,rfl⟩

theorem keeps_liftStandIn (type : TypeRef) (value : Value) : Keeps (liftStandIn model type value) session := by
  refine keeps_standIn other value ((stays_result _).seq (fun content => ?_))
  split
  · exact stays_pure _
  · exact stays_throw _

theorem keeps_liftReturned (type : TypeRef) (returned : Returned) : Keeps (liftReturned model type returned) session := by
  cases returned with
  | buffer buffer => exact keeps_liftBuffer model other type buffer
  | value value => exact keeps_liftStandIn model other type value
  | null => exact keeps_liftStandIn model other type .null

end
end Act

def Step.strands (model : Model) : Step α → Bool
  | .decode type (.fresh ..) => (model.resolve type).isOk
  | _ => false

theorem Step.strands_built {build : α → Except Fault β} {asked : Step α} (failed : asked.mapM build = .error fault) :
    asked.strands model = false := by
  cases asked with
  | decode type native =>
    cases native with
    | fresh => cases failed
    | _ => rfl
  | _ => rfl

theorem Step.strands_mapM {build : α → Except Fault β} {asked : Step α} (done : asked.mapM build = .ok built) :
    built.strands model = asked.strands model := by
  cases asked with
  | decode type native =>
    obtain ⟨_,given,done⟩ := result_ok_parts done
    cases done
    cases native with
    | value =>
      obtain ⟨_,_,given⟩ := result_ok_parts given
      cases given
      rfl
    | _ => cases given; rfl
  | call =>
    obtain ⟨_,_,done⟩ := result_ok_parts done
    obtain ⟨_,_,done⟩ := result_ok_parts done
    cases done
    rfl
  | adjust | reader | bind | liftText | refused => cases done; rfl
  | _ =>
    obtain ⟨_,_,done⟩ := result_ok_parts done
    cases done
    rfl

def Step.isApart : Step α → Bool
  | .ordinal .. => true
  | .size .. => true
  | .writer .. => true
  | .reader .. => true
  | .lowerText _ => true
  | .liftText _ => true
  | .refused _ => true
  | _ => false

theorem Act.stays_step (model : Model) (asked : Step Value) (apart : asked.isApart) (session : Session) :
    Act.Stays (Act.step model asked) session := by
  cases asked with
  | ordinal enumeration number =>
    simp only [step]
    split
    · exact stays_throw _
    · exact (stays_result _).seq (fun _ => stays_pure _)
  | size type value => exact (stays_result _).seq (fun _ => (stays_result _).seq (fun _ => stays_pure _))
  | writer size ops => exact stays_pure _
  | reader bytes ops => exact (stays_result _).seq (fun _ => stays_pure _)
  | lowerText value => exact (stays_result _).seq (fun _ => stays_pure _)
  | liftText encoded => exact (stays_result _).seq (fun _ => stays_pure _)
  | refused cause => exact stays_throw _
  | call | adjust | encode | decode | alloc | bind => cases apart

-- What is left of a step that has not got to the component. Nothing has been seen, and no
-- buffer has come or gone but the one that was given to be decoded.
structure Unseen (stranded : Bool) (before after : Session) : Prop where
  events : after.events = before.events
  books : after.library.books =
    if stranded then ⟨before.library.made + 1,before.library.ids ++ [before.library.made + 1]⟩ else before.library.books

section
variable {model : Model} {session : Session}

theorem Unseen.same (session : Session) : Unseen false session session := ⟨rfl,rfl⟩

theorem Act.Stays.unseen {action : Act α} (stays : Act.Stays action session) : Unseen false session (reached (action session)) := by
  rw [show reached (action session) = session from stays]
  exact .same session

theorem Act.Fails.unseen {action : Act α} (failed : Act.Fails action session) : Unseen false session (reached (action session)) := by
  obtain ⟨fault,failed⟩ := failed
  rw [failed]
  exact .same session

theorem Act.Keeps.events {action : Act α} (keeps : Act.Keeps action session) (form : α → β) :
    (reached ((do return form (← action) : Act β) session)).events = session.events ∧
      (reached ((do return form (← action) : Act β) session)).library = session.library := by
  unfold Act.Keeps Act.Leads at keeps
  cases run : action session with
  | ok value after =>
    rw [run] at keeps
    exact keeps.elim
  | error fault after =>
    rw [run] at keeps
    rw [seq_error run]
    exact keeps

theorem decode_unseen (type : TypeRef) (native : Reply Value) (other : session.bound ≠ some .this) :
    Unseen (Step.strands model (.decode type native)) session (reached (Act.step model (.decode type native) session)) := by
  simp only [Act.step]
  cases resolved : model.resolve type with
  | error fault =>
    have nothing : Step.strands model (.decode type native) = false := by
      cases native <;> simp [Step.strands,resolved,Except.isOk,Except.toBool]
    rw [nothing]
    exact .same session
  | ok =>
    rw [seq_ok (Act.ofResult_ok _)]
    have lifted (returned : Returned) (library : Library) := (Act.keeps_liftReturned model
      (show { session with library := library }.bound ≠ some .this from other) type returned).events Result.value
    cases native with
    | null =>
      obtain ⟨events,library⟩ := lifted .null session.library
      exact ⟨events,congrArg Library.books library⟩
    | value given =>
      obtain ⟨events,library⟩ := lifted (.value given) session.library
      exact ⟨events,congrArg Library.books library⟩
    | echo => exact .same session
    | noData length =>
      obtain ⟨events,library⟩ := lifted (.buffer ⟨none,Library.reported length⟩) session.library
      exact ⟨events,congrArg Library.books library⟩
    | fresh content length =>
      have stranded : Step.strands model (.decode type (.fresh content length) : Step Value) = true := by
        simp [Step.strands,resolved,Except.isOk,Except.toBool]
      obtain ⟨events,library⟩ := lifted _ (session.library.make content.length content (length.getD content.length)).2
      rw [stranded]
      refine ⟨events,(congrArg Library.books library).trans ?_⟩
      rw [Library.books,Library.ids_make]
      rfl

theorem bind_unseen (path : Option String) (library : Option Owner) :
    Unseen false session (reached (Act.bind path library session)) := by
  obtain ⟨component,file,bound,events,log⟩ := session
  unfold Act.bind
  rw [seq_ok get_run]
  cases bound with
  | none => cases library <;> exact ⟨rfl,rfl⟩
  | some holder =>
    dsimp only
    split
    · exact .same _
    · exact .same _

theorem Unseen.shown {action : Act α} {form : α → β} (unseen : Unseen false session (reached (action session))) :
    Unseen false session (reached ((do return form (← action) : Act β) session)) := by
  cases run : action session with
  | ok value after =>
    rw [run] at unseen
    rw [seq_ok run]
    exact unseen
  | error fault after =>
    rw [run] at unseen
    rw [seq_error run]
    exact unseen

-- Of all steps only one that binds the component changes what can be released later.
theorem step_unseen (asked : Step Value) (other : session.bound ≠ some .this) :
    Unseen (asked.strands model) session (reached (Act.step model asked session)) := by
  cases asked with
  | call name values reply fails =>
    simp only [Act.step]
    cases model.function? name with
    | none => exact .same session
    | some function => exact (Act.fails_call model other function values reply fails).first.unseen
  | encode type value => exact (Act.Fails.later (Act.stays_result _) (fun _ => (Act.fails_lowerBuffer model other type value).first)).unseen
  | decode type native => exact decode_unseen type native other
  | alloc size =>
    cases size with
    | int size => exact (Act.fails_alloc other size).first.unseen
    | _ => exact .same session
  | adjust failFree allocDelta => exact ⟨rfl,rfl⟩
  | bind path library => exact (bind_unseen path library).shown
  | ordinal | size | writer | reader | lowerText | liftText | refused => exact (Act.stays_step model _ rfl session).unseen

theorem run_unseen (asked : Step Literal) (other : session.bound ≠ some .this) :
    Unseen (asked.strands model) session (reached (Act.run model asked session)) := by
  cases build : asked.mapM (Literal.build model) with
  | error fault =>
    simp only [Act.run,build]
    rw [Step.strands_built build]
    exact (Act.stays_throw fault).unseen
  | ok built =>
    have unseen : Unseen _ session (reached (Act.step model built session)) := step_unseen built other
    rw [Step.strands_mapM build] at unseen
    simp only [Act.run,build]
    exact unseen

end
end NativeBinding
