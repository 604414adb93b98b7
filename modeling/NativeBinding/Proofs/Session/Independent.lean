import NativeBinding.Proofs.Session.Alike
import NativeBinding.Proofs.Session.Unhidden

namespace NativeBinding
open Wire

inductive Lowered.Renumbered (past : Library) : Lowered → Lowered → Prop
  | value (value : Value) : Renumbered past (.value value) (.value value)
  | buffer (renumbered : Buffer.Renumbered past one other) : Renumbered past (.buffer one) (.buffer other)

inductive Returned.Renumbered (past : Library) : Returned → Returned → Prop
  | null : Renumbered past .null .null
  | value (value : Value) : Renumbered past (.value value) (.value value)
  | buffer (renumbered : Buffer.Renumbered past one other) : Renumbered past (.buffer one) (.buffer other)

theorem Lowered.Renumbered.buffers {past : Library} {lowered lowered' : List Lowered}
    (alike : List.Forall₂ (Lowered.Renumbered past) lowered lowered') :
    List.Forall₂ (Buffer.Renumbered past) (lowered.filterMap Lowered.buffer?) (lowered'.filterMap Lowered.buffer?) := by
  induction alike with
  | nil => exact .nil
  | cons first _ ih =>
    cases first with
    | value => exact ih
    | buffer renumbered => exact .cons renumbered ih

namespace Act

theorem lowerAll_either (model : Model) (held : List Buffer) (field : Field) (value : Value) (rest : List (Field × Value)) :
    lowerAll model held ((field,value) :: rest) = either (lower model field.type value)
      (fun lowered => do
        let others ← lowerAll model (held ++ lowered.buffer?.toList) rest
        return lowered :: others)
      (fun fault => do freeAll held; throw fault) := by
  funext session
  simp only [lowerAll,either]
  cases lower model field.type value session <;> rfl

section
variable {past : Library} {file : String} {model : Model} (sound : past.Sound)

theorem alike_releaseStandIn (value : Value) : Alike past file Eq (releaseStandIn value) (releaseStandIn value) := by
  refine (alike_result _).seq ?_
  rintro data _ rfl
  split
  · exact alike_throw _
  · refine (alike_emit ?_).seq fun _ _ _ => alike_get.seq ?_
    · intro number member
      cases member
    rintro session _ ⟨consistent,rfl⟩
    change Alike past file Eq _ (if session.library.failFree then _ else _)
    split
    · exact alike_throw _
    · exact alike_pure rfl

theorem alike_freeStandIn (value : Value) : Alike past file Eq (freeStandIn value) (freeStandIn value) :=
  alike_needLibrary.seq fun _ _ _ => alike_releaseStandIn value

theorem freeStandInQuietly_either (value : Value) :
    freeStandInQuietly value = either (freeStandIn value) (fun _ => pure ()) (fun _ => warn quietWarning) := by
  funext session
  simp only [freeStandInQuietly,either]
  cases freeStandIn value session <;> rfl

theorem guardingStandIn_either (value : Value) (action : Act Value) : liftStandIn.guardingStandIn value action =
    either action pure (fun fault => do freeStandInQuietly value; throw fault) := by
  funext session
  simp only [liftStandIn.guardingStandIn,either]
  cases action session <;> rfl

theorem alike_liftStandIn (type : TypeRef) (value : Value) :
    Alike past file Eq (liftStandIn model type value) (liftStandIn model type value) := by
  have quietly : Alike past file Eq (freeStandInQuietly value) (freeStandInQuietly value) := by
    rw [freeStandInQuietly_either]
    exact (alike_freeStandIn value).either (fun _ _ _ => alike_pure rfl) fun _ => alike_warn quietWarning
  have guarded {action : Act Value} (alike : Alike past file Eq action action) :
      Alike past file Eq (liftStandIn.guardingStandIn value action) (liftStandIn.guardingStandIn value action) := by
    rw [guardingStandIn_either]
    exact alike.either (fun _ _ same => alike_pure same) fun fault => quietly.seq fun _ _ _ => alike_throw fault
  refine (guarded ((alike_result _).seq ?_)).seq ?_
  · rintro content _ rfl
    split
    · exact alike_pure rfl
    · exact alike_throw _
  · rintro lifted _ rfl
    exact (alike_freeStandIn value).seq fun _ _ _ => alike_pure rfl

section
include sound

theorem alike_lower (type : TypeRef) (value : Value) :
    Alike past file (Lowered.Renumbered past) (lower model type value) (lower model type value) := by
  have whole : Alike past file (Lowered.Renumbered past) (do return .buffer (← lowerBuffer model type value))
      (do return .buffer (← lowerBuffer model type value)) :=
    (alike_lowerBuffer sound type value).seq fun _ _ renumbered => alike_pure (.buffer renumbered)
  have plain {α : Type} {result : Except Fault α} (send : α → Value) : Alike past file (Lowered.Renumbered past)
      (do return .value (send (← ofResult result))) (do return .value (send (← ofResult result))) := by
    refine (alike_result result).seq ?_
    rintro found _ rfl
    exact alike_pure (.value _)
  cases type with
  | plain which =>
    cases which with
    | bytes => exact whole
    | string => exact plain Value.bytes
    | _ => exact alike_pure (.value _)
  | named which =>
    cases which with
    | enumeration => exact plain id
    | _ => exact whole
  | optional => exact whole

theorem alike_freeAll {ones others : List Buffer} (alike : List.Forall₂ (Buffer.Renumbered past) ones others) :
    Alike past file Eq (freeAll ones) (freeAll others) := by
  induction alike with
  | nil => exact alike_pure rfl
  | cons first _ ih => exact (alike_freeQuietly sound first).seq fun _ _ _ => ih

theorem alike_guardingAll {ones others : List Buffer} (alike : List.Forall₂ (Buffer.Renumbered past) ones others)
    {Same : α → β → Prop} {action : Act α} {action' : Act β} (run : Alike past file Same action action') :
    Alike past file Same (guardingAll ones action) (guardingAll others action') :=
  run.either (fun _ _ same => alike_pure same) fun fault => (alike_freeAll sound alike).seq fun _ _ _ => alike_throw fault

theorem alike_lowerAll (rest : List (Field × Value)) {ones others : List Buffer}
    (alike : List.Forall₂ (Buffer.Renumbered past) ones others) :
    Alike past file (List.Forall₂ (Lowered.Renumbered past)) (lowerAll model ones rest) (lowerAll model others rest) := by
  induction rest generalizing ones others with
  | nil => exact alike_pure .nil
  | cons row rest ih =>
    obtain ⟨field,value⟩ := row
    rw [lowerAll_either,lowerAll_either]
    refine (alike_lower sound field.type value).either (fun lowered lowered' same => ?_) fun fault => ?_
    · have held : List.Forall₂ (Buffer.Renumbered past) (ones ++ lowered.buffer?.toList) (others ++ lowered'.buffer?.toList) := by
        refine List.rel_append alike ?_
        cases same with
        | value => exact .nil
        | buffer renumbered => exact .cons renumbered .nil
      exact (ih held).seq fun _ _ all => alike_pure (.cons same all)
    · exact (alike_freeAll sound alike).seq fun _ _ _ => alike_throw fault

theorem passed_continuing (later : Library) (renumbered : Lowered.Renumbered past one other) :
    passed (later.continuing past) other = (passed later one).renumber (past.made + ·) := by
  cases renumbered with
  | value => rfl
  | @buffer one other renumbered =>
    simp only [passed,Library.isLive_continuing sound renumbered,Library.content_continuing sound renumbered]
    rw [renumbered.same]
    split <;> rfl

theorem passedAll_continuing (later : Library) {ones others : List Lowered}
    (alike : List.Forall₂ (Lowered.Renumbered past) ones others) : others.map (passed (later.continuing past)) = (ones.map (passed later)).map (Passed.renumber (past.made + ·)) := by
  induction alike with
  | nil => rfl
  | cons first _ ih => exact congrArg₂ List.cons (passed_continuing sound later first) ih

theorem echoed_continuing (later : Library) {ones others : List Buffer}
    (alike : List.Forall₂ (Buffer.Renumbered past) ones others) : others.head?.map (later.continuing past).content = ones.head?.map later.content := by
  cases alike with
  | nil => rfl
  | cons first _ => exact congrArg some (Library.content_continuing sound first)

omit sound in
theorem passed_counted (library : Library) (renumbered : Lowered.Renumbered past one other) :
    ∀ number ∈ (passed library one).number?, 0 < number := by
  intro number member
  cases renumbered with
  | value => cases member
  | @buffer one other renumbered =>
    refine Nat.pos_of_ne_zero ?_
    rintro rfl
    simp only [passed,Passed.number?] at member
    split at member
    · exact renumbered.counted member
    · cases member

end

theorem alike_fresh {session : Session} (consistent : session.Consistent file) (content : List UInt8) (length : Int) :
    Alike past file (Returned.Renumbered past) (answer.fresh session content length)
      (answer.fresh (session.continuing past) content length) := by
  have next : (session.library.make content.length content length).2.Sound := consistent.sound.make _ _ _
  exact (alike_onLibrary (fun _ _ => next) fun _ => Library.make_continuing content.length content length).seq fun _ _ _ =>
    alike_pure (.buffer (Library.make_renumbered content.length content length))

theorem alike_answer (reply : Reply Value) (echoed : Option (List UInt8)) :
    Alike past file (Returned.Renumbered past) (answer reply echoed) (answer reply echoed) := by
  refine alike_get.seq ?_
  rintro session _ ⟨consistent,rfl⟩
  cases reply with
  | null => exact alike_pure .null
  | value => exact alike_pure (.value _)
  | noData length => exact alike_pure (.buffer ⟨rfl,nofun⟩)
  | fresh content length => exact alike_fresh consistent content _
  | echo =>
    cases echoed with
    | none => exact alike_throw _
    | some content => exact alike_fresh consistent content _

section
include sound

theorem alike_respond (symbol : String) {lowered lowered' : List Lowered}
    (alike : List.Forall₂ (Lowered.Renumbered past) lowered lowered')
    (reply : Reply Value) (fails : Bool) :
    Alike past file (Returned.Renumbered past) (respond symbol lowered reply fails) (respond symbol lowered' reply fails) := by
  refine alike_get.seq ?_
  rintro session _ ⟨consistent,rfl⟩
  have buffers := Lowered.Renumbered.buffers alike
  have counted : ∀ number ∈ (Event.call symbol (lowered.map (passed session.library))).numbers, 0 < number := by
    intro number member
    simp only [Event.numbers,List.filterMap_map,List.mem_filterMap] at member
    obtain ⟨one,known,found⟩ := member
    obtain ⟨other,_,renumbered⟩ := forall₂_right alike known
    exact passed_counted session.library renumbered number found
  have echoed := echoed_continuing sound session.library buffers
  dsimp only
  rw [show lowered'.map (passed (session.continuing past).library) = _ from passedAll_continuing sound session.library alike,
    show Option.map (session.continuing past).library.content _ = _ from echoed]
  refine (alike_emit counted).seq fun _ _ _ => ?_
  split
  · exact alike_throw _
  · refine (alike_onLibrary (fun library sound => ?_) (Library.drops_continuing sound buffers)).seq fun _ _ _ => alike_answer _ _
    exact List.foldlRecOn _ _ sound fun _ sound _ _ => sound.drop

theorem alike_liftReturned (type : TypeRef) (renumbered : Returned.Renumbered past one other) :
    Alike past file Eq (liftReturned model type one) (liftReturned model type other) := by
  cases renumbered with
  | null => exact alike_liftStandIn type .null
  | value value => exact alike_liftStandIn type value
  | buffer renumbered => exact alike_liftBuffer sound renumbered type

theorem alike_lift (type : TypeRef) (renumbered : Returned.Renumbered past one other) :
    Alike past file Eq (lift model type one) (lift model type other) := by
  have plain (look : Returned → Except Fault Value) (same : look other = look one) :
      Alike past file Eq (ofResult (look one)) (ofResult (look other)) := same ▸ alike_result _
  have whole : Alike past file Eq (liftReturned model type one) (liftReturned model type other) :=
    alike_liftReturned sound type renumbered
  have scalars : scalar other = scalar one := by cases renumbered <;> rfl
  cases type with
  | plain which =>
    cases which with
    | bytes => exact whole
    | string => exact plain liftText (by cases renumbered <;> rfl)
    | boolean => exact alike_pure (by cases renumbered <;> rfl)
    | _ => exact plain scalar scalars
  | named which name =>
    cases which with
    | enumeration => exact plain (fun returned => model.fromOrdinal name (ordinalOf returned)) (by cases renumbered <;> rfl)
    | _ => exact whole
  | optional => exact whole

theorem alike_foreignCall (symbol : String) {lowered lowered' : List Lowered}
    (alike : List.Forall₂ (Lowered.Renumbered past) lowered lowered') (reply : Reply Value) (fails : Bool) :
    Alike past file (Returned.Renumbered past) (foreignCall symbol lowered reply fails) (foreignCall symbol lowered' reply fails) :=
  alike_needLibrary.seq fun _ _ _ => alike_respond sound symbol alike reply fails

theorem alike_exchange (function : Function) (values : List Value) (reply : Reply Value) (fails : Bool)
    {answers : Returned → Act Value}
    (each : ∀ one other, Returned.Renumbered past one other → Alike past file Eq (answers one) (answers other)) :
    let exchange : Act Value := do
      let lowered ← lowerAll model [] (function.arguments.zip values)
      let returned ← guardingAll (lowered.filterMap Lowered.buffer?)
        (foreignCall (model.symbol function.name) lowered reply fails)
      answers returned
    Alike past file Eq exchange exchange := by
  refine (alike_lowerAll sound (function.arguments.zip values) .nil).seq fun lowered lowered' alike => ?_
  exact (alike_guardingAll sound (Lowered.Renumbered.buffers alike) (alike_foreignCall sound _ alike reply fails)).seq each

theorem alike_call (function : Function) (values : List Value) (reply : Reply Value) (fails : Bool) :
    Alike past file Eq (call model function values reply fails) (call model function values reply fails) := by
  simp only [call]
  split
  · exact alike_throw _
  · split
    case' isTrue => refine alike_needLibrary.seq fun _ _ _ => ?_
    all_goals
      refine alike_exchange sound function values reply fails fun _ _ renumbered => ?_
      cases function.returns with
      | none => exact alike_pure rfl
      | some type => exact alike_lift sound type renumbered

theorem alike_consume {one other : Buffer} (renumbered : one.Renumbered past other) : Alike past file Eq (consume one) (consume other) := by
  refine alike_get.seq ?_
  rintro session _ ⟨consistent,rfl⟩
  have content : (session.continuing past).library.content other = session.library.content one :=
    Library.content_continuing sound renumbered
  dsimp only
  rw [content]
  exact (alike_onLibrary (fun _ sound => sound.drop) fun _ => Library.drop_continuing sound renumbered).seq fun _ _ _ => alike_pure rfl

omit sound in
theorem alike_bind (path : Option String) (library : Option Owner) :
    Alike past file Eq (bind path library) (bind path library) := by
  refine alike_get.seq ?_
  rintro session _ ⟨consistent,rfl⟩
  have same : (session.continuing past).bound = session.bound := rfl
  have named : (session.continuing past).file = session.file := rfl
  rw [same,named]
  cases session.bound with
  | none =>
    cases library with
    | none => exact alike_throw _
    | some owner =>
      have consistent : Session.Consistent file { session with bound := some owner } :=
        ⟨consistent.sound,consistent.file,consistent.counted⟩
      exact (alike_set consistent).seq fun _ _ _ => alike_pure rfl
  | some holder =>
    dsimp only
    split
    · exact alike_throw _
    · exact alike_pure rfl

theorem alike_step (asked : Step Value) : Alike past file Eq (step model asked) (step model asked) := by
  have shown {α : Type} {one other : Act α} (alike : Alike past file Eq one other) (show' : α → Result) :
      Alike past file Eq (do return show' (← one)) (do return show' (← other)) := by
    refine alike.seq ?_
    rintro value _ rfl
    exact alike_pure rfl
  cases asked with
  | call name values reply fails =>
    simp only [step]
    cases model.function? name with
    | none => exact alike_throw _
    | some function => exact shown (alike_call sound function values reply fails) Result.value
  | adjust failFree allocDelta =>
    let change (library : Library) : Library :=
      { library with failFree := failFree.getD library.failFree,allocDelta := allocDelta.getD library.allocDelta }
    have changed : Alike past file Eq (onLibrary change) (onLibrary change) :=
      alike_onLibrary (fun _ sound => ⟨sound.distinct,sound.made⟩) fun _ => rfl
    exact changed.seq fun _ _ _ => alike_pure rfl
  | ordinal enumeration number =>
    simp only [step]
    split
    · exact alike_throw _
    · exact shown (alike_result _) Result.value
  | size type value =>
    refine (alike_result _).seq fun _ _ _ => ?_
    exact shown (alike_result _) (fun size : Nat => Result.value (.int size))
  | encode type value =>
    refine (alike_result _).seq fun _ _ _ => (alike_lowerBuffer sound type value).seq fun buffer other renumbered => ?_
    exact shown (alike_consume sound renumbered) Result.content
  | decode type native =>
    refine (alike_result _).seq fun _ _ _ => (alike_answer native none).seq fun returned other renumbered => ?_
    exact shown (alike_liftReturned sound type renumbered) Result.value
  | alloc size =>
    cases size with
    | int size =>
      refine (alike_alloc sound size).seq fun buffer other renumbered => ?_
      refine (alike_onLibrary (fun _ sound => sound.drop) fun _ => Library.drop_continuing sound renumbered).seq fun _ _ _ => ?_
      exact alike_pure (by rw [renumbered.length])
    | _ => exact alike_throw _
  | writer size ops => exact alike_pure rfl
  | reader bytes ops => exact shown (alike_result _) Result.read
  | bind path library => exact shown (alike_bind path library) Result.owner
  | lowerText value => exact shown (alike_result _) Result.content
  | liftText encoded => exact shown (alike_result _) Result.value
  | refused cause => exact alike_throw _

theorem alike_run (model : Model) (asked : Step Literal) : Alike past file Eq (run model asked) (run model asked) := by
  refine (alike_result _).seq ?_
  rintro built _ rfl
  exact alike_step sound built

end
end
end Act

namespace Session

def fresh (session : Session) : Session :=
  ⟨{ session.library with made := 0,blocks := [] },session.file,session.bound,[],[]⟩

-- A session that steps of any kind have led to, whatever came of them.
inductive Reached (model : Model) (file : String) : Session → Prop
  | start (bound : Option Owner) : Reached model file (start file bound)
  | step (before : Reached model file session) (asked : Step Literal) : Reached model file (session.advance model asked).2

variable {model : Model} {file : String} {session : Session}

theorem cleared_fresh (session : Session) : session.cleared = session.fresh.continuing session.library := by
  simp [cleared,fresh,continuing,Library.continuing]

theorem fresh_consistent (session : Session) : session.fresh.Consistent session.file where
  sound := ⟨List.nodup_nil,nofun⟩
  file := rfl
  counted := nofun

theorem Consistent.cleared (consistent : session.Consistent file) : session.cleared.Consistent file :=
  ⟨consistent.sound,consistent.file,nofun⟩

theorem Consistent.advance (consistent : session.Consistent file) (model : Model) (asked : Step Literal) :
    (session.advance model asked).2.Consistent file := by
  have carried := Act.alike_run Library.sound_empty model asked _ consistent.cleared
  rw [(session.advance_parts model asked).1]
  generalize Act.run model asked session.cleared = left at *
  generalize Act.run model asked (session.cleared.continuing Library.empty) = right at *
  cases carried with
  | ok consistent => exact consistent
  | error consistent => exact consistent

theorem Reached.consistent (found : session.Reached model file) : session.Consistent file := by
  induction found with
  | start bound => exact ⟨Library.sound_empty,rfl,nofun⟩
  | step _ asked ih => exact ih.advance model asked

end Session

structure Outcome.Renumbered (past : Library) (one other : Outcome) : Prop where
  result : other.result = one.result
  log : other.log = one.log
  events : other.events = one.events.map (Event.renumber (past.made + ·))

namespace Session
variable {model : Model} {file : String} {session : Session} {past : Library}

theorem Consistent.advance_continuing (consistent : session.Consistent file) (sound : past.Sound) (model : Model) (asked : Step Literal) :
    (session.advance model asked).1.Renumbered past ((session.continuing past).advance model asked).1 ∧
      ((session.continuing past).advance model asked).2 = (session.advance model asked).2.continuing past := by
  have carried := Act.alike_run sound model asked _ consistent.cleared
  have same : (session.continuing past).cleared = session.cleared.continuing past := rfl
  rw [advance_ended,advance_ended,same]
  generalize Act.run model asked session.cleared = left at *
  generalize Act.run model asked (session.cleared.continuing past) = right at *
  cases carried with
  | ok consistent same => cases same; exact ⟨⟨rfl,rfl,rfl⟩,rfl⟩
  | error consistent => exact ⟨⟨rfl,rfl,rfl⟩,rfl⟩

end Session

def Event.since (made : Nat) (event : Event) : Event := event.renumber (· - made)

theorem Event.since_past (made : Nat) (event : Event) : (event.renumber (made + ·)).since made = event := by
  rw [since,renumber_twice]
  exact renumber_same (fun number => Nat.add_sub_cancel_left made number) event

structure SameStep (model : Model) (one other : Session) (asked : Step Literal) : Prop where
  result : (one.advance model asked).1.result = (other.advance model asked).1.result
  log : (one.advance model asked).1.log = (other.advance model asked).1.log
  events : (one.advance model asked).1.events.map (Event.since one.library.made) =
    (other.advance model asked).1.events.map (Event.since other.library.made)

-- A step has nothing to do with buffers that were made before it: none of them is named, and
-- those that are live stay as they are.
structure Spares (model : Model) (session : Session) (asked : Step Literal) : Prop where
  unnamed : ∀ event ∈ (session.advance model asked).1.events, ∀ number ∈ event.numbers, session.library.made < number
  live : ∀ buffer, session.library.isLive buffer →
    (session.advance model asked).2.library.block? buffer = session.library.block? buffer

namespace Session
variable {model : Model} {session : Session}

-- What a step does it does as on a component that has made nothing yet.
theorem advance_fresh (sound : session.library.Sound) (model : Model) (asked : Step Literal) :
    (session.fresh.advance model asked).1.Renumbered session.library (session.advance model asked).1 ∧
      (session.advance model asked).2 = (session.fresh.advance model asked).2.continuing session.library := by
  have moved := session.fresh_consistent.advance_continuing sound model asked
  rw [← cleared_fresh] at moved
  exact moved

theorem advance_since (sound : session.library.Sound) (asked : Step Literal) :
    (session.advance model asked).1.events.map (Event.since session.library.made) =
      (session.fresh.advance model asked).1.events := by
  rw [(advance_fresh sound model asked).1.events,List.map_map]
  refine (List.map_congr_left fun event _ => ?_).trans (List.map_id _)
  exact Event.since_past _ event

theorem advance_spares (sound : session.library.Sound) (asked : Step Literal) : Spares model session asked := by
  obtain ⟨renumbered,after⟩ := advance_fresh sound model asked
  have consistent := session.fresh_consistent.advance model asked
  refine ⟨?_,?_⟩
  · rw [renumbered.events,(session.fresh.advance_parts model asked).2.1]
    refine List.forall_mem_map.mpr fun event member number known => ?_
    rw [Event.numbers_renumber] at known
    obtain ⟨own,named,rfl⟩ := List.mem_map.mp known
    exact Nat.lt_add_of_pos_right (consistent.counted event member own named)
  · intro buffer live
    rw [after]
    exact Library.block?_past live

end Session

-- Whatever two sessions have gone through, a step comes to the same in both, as long as
-- releases and sizes are treated in the same way.
theorem steps_independent {model : Model} {file : String} {one other : Session} (first : one.Reached model file)
    (second : other.Reached model file) (bound : one.bound = other.bound)
    (frees : one.library.failFree = other.library.failFree) (delta : one.library.allocDelta = other.library.allocDelta)
    (asked : Step Literal) : SameStep model one other asked ∧ Spares model one asked ∧ Spares model other asked := by
  have left := first.consistent
  have right := second.consistent
  have same : one.fresh = other.fresh := by simp [Session.fresh,bound,frees,delta,left.file,right.file]
  obtain ⟨here,_⟩ := Session.advance_fresh left.sound model asked
  obtain ⟨there,_⟩ := Session.advance_fresh right.sound model asked
  rw [← same] at there
  refine ⟨⟨?_,?_,?_⟩,Session.advance_spares left.sound asked,Session.advance_spares right.sound asked⟩
  · rw [here.result,there.result]
  · rw [here.log,there.log]
  · rw [Session.advance_since left.sound,Session.advance_since right.sound,same]

def leakySteps : List (Step Literal) :=
  [.adjust (some true) none,.call "turn" [.value (.text "up"),unmadeNode] .null true,.adjust (some false) none]

def leakySession : Session := leakySteps.foldl (fun session asked => (session.advance sampleModel asked).2)
  (Session.start "" (some .this))

theorem steps_independent_sample :
    let asked : Step Literal := .call "turn" [.value (.text "up"),unmadeNode] .echo false
    let start := Session.start "" (some .this)
    leakySession.library.made = 1 ∧ leakySession.library.isLive ⟨some 1,11⟩ ∧
      SameStep sampleModel start leakySession asked ∧ Spares sampleModel leakySession asked := by
  intro asked start
  have begun : start.Reached sampleModel "" := .start (some .this)
  have reached : leakySession.Reached sampleModel "" := ((begun.step _).step _).step _
  obtain ⟨same,_,spares⟩ := steps_independent begun reached rfl rfl rfl asked
  exact ⟨rfl,rfl,same,spares⟩

end NativeBinding
