import NativeBinding.Proofs.Session.Ownership
import NativeBinding.Proofs.Session.Parted

namespace NativeBinding
open Wire

def Returned.held : Returned → List Nat
  | .buffer back => back.id.toList
  | _ => []

theorem Library.dropAll_failing (library : Library) (buffers : List Buffer) (fails : Bool) :
    buffers.foldl drop { library with failFree := fails } = { buffers.foldl drop library with failFree := fails } := by
  induction buffers generalizing library with
  | nil => rfl
  | cons buffer rest ih => exact ih (library.drop buffer)

theorem Session.afterCall_failing (session : Session) (symbol : String) (arguments : List Lowered) (fails : Bool) :
    (session.failing fails).afterCall symbol arguments = (session.afterCall symbol arguments).failing fails := by
  simp only [failing,afterCall,Library.dropAll_failing]
  rfl

theorem Library.dropAll_made (library : Library) (buffers : List Buffer) :
    (buffers.foldl drop library).made = library.made := by
  induction buffers generalizing library with
  | nil => rfl
  | cons buffer rest ih => exact ih (library.drop buffer)

structure Alike (less more : Session) : Prop where
  events : less.events = more.events
  unseen : more.events.countP Event.isFree = 0
  log : less.log = [] ∧ more.log = []
  live : less.library.ids = more.library.ids

-- A value was there when its buffer could not be released.
structure Stuck (owner : Option Owner) (less more : Session) : Prop where
  bound : owner = some .this
  events : less.events = more.events
  seen : more.events.countP Event.isFree = 1

inductive Compared (owner : Option Owner) (off on : EStateM.Result Fault Session α) : Prop
  | alike (left : off = .ok value less) (right : on = .ok value more) (alike : Alike less more)
  | failed (left : off = .error fault less) (right : on = .error fault more) (parted : Parted owner [] less more)
  | stuck (left : off = .ok value less) (right : on = .error .releaseFailed more) (stuck : Stuck owner less more)

def Act.Compares (owner : Option Owner) (action : Act α) (session : Session) : Prop :=
  Compared owner (action (session.failing false)) (action (session.failing true))

namespace Act
variable {owner : Option Owner} {session : Session}

theorem Both.compares {action : Act α} (both : Both action session (fun _ => Quiet owner []) (Parted owner [])) :
    Compares owner action session := by
  rcases both with ⟨value,after,run,quiet⟩ | ⟨fault,less,more,off,on,parted⟩
  · exact .alike (run false) (run true) ⟨rfl,quiet.unseen,⟨quiet.log,quiet.log⟩,rfl⟩
  · exact .failed off on parted

theorem Both.leads {action : Act α} {next : α → Act β} {done : α → Session → Prop}
    (both : Both action session done (Parted owner []))
    (rest : ∀ value after, done value after → Compares owner (next value) after) : Compares owner (action >>= next) session := by
  unfold Compares
  rcases both with ⟨value,after,run,met⟩ | ⟨fault,less,more,off,on,parted⟩
  · rw [seq_ok (run false),seq_ok (run true)]
    exact rest value after met
  · exact .failed (seq_error off) (seq_error on) parted

theorem Compares.shown {action : Act α} (compares : Compares owner action session) (form : α → β) :
    Compares owner (do let value ← action; return form value) session := by
  cases compares with
  | alike left right alike => exact .alike (seq_ok left) (seq_ok right) alike
  | failed left right parted => exact .failed (seq_error left) (seq_error right) parted
  | stuck left right stuck => exact .stuck (seq_ok left) (seq_error right) stuck

end Act

namespace Quiet
variable {owner : Option Owner} {held : List Nat} {session : Session} {model : Model}

theorem ends (quiet : Quiet owner [] session) (value : α) : Act.Compares owner (pure value) session :=
  .alike rfl rfl ⟨rfl,quiet.unseen,⟨quiet.log,quiet.log⟩,rfl⟩

theorem afterCall (quiet : Quiet owner held session) (symbol : String) (arguments : List Lowered) :
    Quiet owner held (session.afterCall symbol arguments) := by
  have shown : Quiet owner held
    { session with events := session.events ++ [.call symbol (arguments.map (Act.passed session.library))] } := quiet.shows rfl
  exact shown.same rfl rfl rfl (Library.dropAll_made _ _).ge

theorem answer (quiet : Quiet owner held session) (reply : Reply Value) (echoed : Option (List UInt8)) :
    Act.Both (Act.answer reply echoed) session
      (fun returned after => returned.isBuffer = reply.isBuffer ∧ Quiet owner returned.held after) (Parted owner held) := by
  have nothing : Quiet owner [] session := quiet.drops (List.nil_sublist _)
  have sent (content : List UInt8) (length : Int) : Quiet owner [session.library.made + 1]
      { session with library := (session.library.make content.length content length).2 } := by
    refine ⟨quiet.bound,quiet.log,quiet.unseen,List.nodup_singleton _,?_⟩
    intro number member
    rw [List.mem_singleton.mp member]
    exact Nat.le_refl _
  cases reply with
  | null => exact Act.both_ok (fun _ => rfl) ⟨rfl,nothing⟩
  | value value => exact Act.both_ok (fun _ => rfl) ⟨rfl,nothing⟩
  | noData length => exact .inl ⟨.buffer ⟨none,Library.reported length⟩,session,fun _ => rfl,rfl,nothing⟩
  | fresh content length =>
    have back := sent content (length.getD content.length)
    exact .inl ⟨.buffer (session.library.make content.length content (length.getD content.length)).1,
      { session with library := (session.library.make content.length content (length.getD content.length)).2 },
      fun _ => rfl,rfl,back⟩
  | echo =>
    cases echoed with
    | none => exact quiet.fails (fun _ => rfl)
    | some content =>
      exact .inl ⟨.buffer (session.library.make content.length content content.length).1,
        { session with library := (session.library.make content.length content content.length).2 },
        fun _ => rfl,rfl,sent content content.length⟩

section
variable {arguments : List Lowered} (quiet : Quiet owner (idsOf (arguments.filterMap Lowered.buffer?)) session)
include quiet

theorem respond (symbol : String) (reply : Reply Value) (fails : Bool) :
    Act.Both (Act.respond symbol arguments reply fails) session
    (fun returned after => fails = false ∧ returned.isBuffer = reply.isBuffer ∧ Quiet owner returned.held after)
    (Parted owner (idsOf (arguments.filterMap Lowered.buffer?))) := by
  cases fails with
  | true =>
    have called : Quiet owner (idsOf (arguments.filterMap Lowered.buffer?))
      { session with events := session.events ++ [.call symbol (arguments.map (Act.passed session.library))] } := quiet.shows rfl
    exact Act.both_error (fun _ => rfl) called.parted
  | false =>
    have answered := (quiet.afterCall symbol arguments).answer reply
      ((arguments.filterMap Lowered.buffer?).head?.map session.library.content)
    refine (answered.mono (fun _ _ met => ⟨rfl,met⟩) (fun _ _ => id)).continues (fun fails => ?_)
    rw [Act.respond_returns,Session.afterCall_failing]
    rfl

theorem foreignCall (symbol : String) (reply : Reply Value) (fails : Bool) :
    Act.Both (Act.foreignCall symbol arguments reply fails) session
    (fun returned after => fails = false ∧ returned.isBuffer = reply.isBuffer ∧ Quiet owner returned.held after)
    (Parted owner (idsOf (arguments.filterMap Lowered.buffer?))) :=
  quiet.needLibrary.seq (fun _ _ found => found.2.respond symbol reply fails)

end

-- What was read is lost if its buffer cannot be released, and only then.
theorem free (quiet : Quiet owner held session) (buffer : Buffer) : Act.Compares owner (Act.free buffer) session := by
  refine (quiet.drops (List.nil_sublist _)).needLibrary.leads ?_
  rintro _ after ⟨bound,quiet⟩
  refine .stuck (Act.release_ok buffer rfl) (Act.release_error buffer rfl) ⟨bound,rfl,?_⟩
  change (after.events ++ [Act.shown after.library buffer]).countP Event.isFree = 1
  rw [List.countP_append,quiet.unseen]
  rfl

theorem liftBuffer (quiet : Quiet owner buffer.id.toList session) (type : TypeRef) :
    Act.Compares owner (Act.liftBuffer model type buffer) session := by
  have scanned : Act.Both (Act.scan buffer (model.decodeWhole type)) session (fun _ => Quiet owner (buffer.id.toList ++ []))
      (Parted owner (buffer.id.toList ++ [])) := by
    rw [List.append_nil]
    exact quiet.scan buffer _
  rw [Act.liftBuffer_eq]
  refine (guarded scanned).leads (fun value after quiet => ?_)
  rw [List.append_nil] at quiet
  exact (quiet.free buffer).shown (fun _ => value)

theorem lift {returned : Returned} (quiet : Quiet owner returned.held session) (type : TypeRef) (closed : type.isClosed model)
    (fits : returned.isBuffer = type.isBuffer) : Act.Compares owner (Act.lift model type returned) session := by
  cases returned with
  | buffer buffer =>
    have lifted : Act.Compares owner (Act.liftBuffer model type buffer) session := quiet.liftBuffer type
    cases type with
    | plain which label aside =>
      cases which with
      | bytes => exact lifted
      | _ => cases fits
    | named which name aside =>
      cases which with
      | record => exact lifted
      | _ => cases fits
    | optional below label => exact lifted
  | null | value =>
    have quiet : Quiet owner [] session := quiet
    cases type with
    | plain which label aside =>
      cases which with
      | bytes => cases fits
      | boolean => exact quiet.ends _
      | _ => simp only [Act.lift]; exact (quiet.result _).compares
    | named which name aside =>
      cases which with
      | record => cases fits
      | enumeration => simp only [Act.lift]; exact (quiet.result _).compares
      | object => cases closed
    | optional below label => cases fits

section
variable (function : Function) (values : List Value) (reply : Reply Value) (fails : Bool)
  (closed : ∀ type ∈ function.returns, type.isClosed model)
  (fits : fails = false → reply.isBuffer = function.returns.any TypeRef.isBuffer)
include closed fits

theorem called (quiet : Quiet owner [] session) : Act.Compares owner (do
    let lowered ← Act.lowerAll model [] (function.arguments.zip values)
    let returned ← Act.guardingAll (lowered.filterMap Lowered.buffer?)
      (Act.foreignCall (model.symbol function.name) lowered reply fails)
    match function.returns with
    | none => return .null
    | some type => Act.lift model type returned : Act Value) session := by
  refine (lowerAll (function.arguments.zip values) quiet).leads (fun lowered after quiet => ?_)
  refine (guardedAll (quiet.foreignCall (model.symbol function.name) reply fails)).leads ?_
  rintro returned later ⟨succeeds,same,quiet⟩
  have fits := same.trans (fits succeeds)
  cases result : function.returns with
  | none =>
    rw [result] at fits
    cases returned with
    | buffer => cases fits
    | null => exact quiet.ends Value.null
    | value => exact quiet.ends Value.null
  | some type =>
    rw [result] at fits closed
    exact quiet.lift type (closed type rfl) fits

theorem call (quiet : Quiet owner [] session) : Act.Compares owner (Act.call model function values reply fails) session := by
  simp only [Act.call]
  split
  · exact (quiet.fails (fun _ => rfl)).compares
  · split
    · exact quiet.needLibrary.leads (fun _ _ found => found.2.called function values reply fails closed fits)
    · exact quiet.called function values reply fails closed fits

end

theorem dropped {owner : Option Owner} {session : Session} (quiet : Quiet owner held session) (buffer : Buffer) (value : α) :
    Act.Compares owner (do Act.onLibrary (fun library => library.drop buffer); return value) session :=
  .alike rfl rfl ⟨rfl,quiet.unseen,⟨quiet.log,quiet.log⟩,rfl⟩

theorem bind (quiet : Quiet owner [] session) (path : Option String) (library : Option Owner) :
    Act.Compares owner (Act.bind path library) session := by
  obtain ⟨component,file,bound,events,log⟩ := session
  unfold Act.Compares Act.bind
  rw [seq_ok get_run,seq_ok get_run]
  cases bound with
  | none =>
    cases library with
    | none => exact .failed rfl rfl quiet.parted
    | some asked => exact .alike rfl rfl ⟨rfl,quiet.unseen,⟨quiet.log,quiet.log⟩,rfl⟩
  | some holder =>
    dsimp only [Session.failing]
    split
    · exact .failed rfl rfl quiet.parted
    · exact .alike rfl rfl ⟨rfl,quiet.unseen,⟨quiet.log,quiet.log⟩,rfl⟩

theorem step (quiet : Quiet owner [] session) (asked : Step Value) (closed : ∀ type ∈ model.typeRefs, type.isClosed model)
    (fits : asked.exchange.fits model) : Act.Compares owner (Act.step model asked) session := by
  cases asked with
  | call name values reply fails =>
    simp only [Act.step]
    cases found : model.function? name with
    | none => exact (quiet.fails (fun _ => rfl)).compares
    | some function =>
      have member : function ∈ model.functions := by simpa using List.mem_of_find?_eq_some found
      have results : ∀ type ∈ function.returns, type.isClosed model := by
        intro type result
        refine closed type (List.mem_append_right _ (List.mem_flatMap.mpr ⟨function,member,?_⟩))
        exact List.mem_append_right _ (Option.mem_toList.mpr result)
      have expected : fails = false → reply.isBuffer = function.returns.any TypeRef.isBuffer := by
        intro succeeds
        simpa [Step.exchange,Exchange.fits,found,succeeds] using fits
      exact (quiet.call function values reply fails results expected).shown Result.value
  | encode type value =>
    refine (quiet.result (model.resolve type)).leads (fun _ after quiet => ?_)
    refine (quiet.lowerBuffer type value).leads (fun buffer later quiet => ?_)
    exact quiet.dropped buffer (Result.content (later.library.content buffer))
  | decode type native =>
    simp only [Step.exchange,Exchange.fits,Reply.isBuffer_shape] at fits
    refine (quiet.result (model.resolve type)).leads (fun _ after quiet => ?_)
    refine (quiet.answer native none).leads ?_
    rintro returned later ⟨same,quiet⟩
    cases returned with
    | buffer buffer => exact (quiet.liftBuffer type).shown Result.value
    | null => rw [fits] at same; cases same
    | value => rw [fits] at same; cases same
  | alloc size =>
    cases size with
    | int size => exact (quiet.alloc size).leads (fun buffer later quiet => quiet.dropped buffer (Result.value (.int buffer.length)))
    | _ => exact (quiet.fails (fun _ => rfl)).compares
  | adjust failFree allocDelta => exact .alike rfl rfl ⟨rfl,quiet.unseen,⟨quiet.log,quiet.log⟩,rfl⟩
  | ordinal enumeration number =>
    simp only [Act.step]
    split
    · exact (quiet.fails (fun _ => rfl)).compares
    · exact (quiet.result _).compares.shown Result.value
  | size type value =>
    refine (quiet.result (model.resolve type)).leads (fun _ after quiet => ?_)
    exact (quiet.result _).compares.shown (fun size : Nat => Result.value (.int size))
  | bind path library => exact (quiet.bind path library).shown Result.owner
  | lowerText value => exact (quiet.result _).compares.shown Result.content
  | liftText encoded => exact (quiet.result _).compares.shown Result.value
  | writer size ops => exact quiet.ends _
  | reader bytes ops => exact (quiet.result _).compares.shown Result.read
  | refused cause => exact (quiet.fails (fun _ => rfl)).compares

theorem run (quiet : Quiet owner [] session) (asked : Step Literal) (closed : ∀ type ∈ model.typeRefs, type.isClosed model)
    (fits : asked.exchange.fits model) : Act.Compares owner (Act.run model asked) session := by
  simp only [Act.run]
  cases build : asked.mapM (Literal.build model) with
  | error fault => exact (quiet.fails (fun _ => rfl)).compares
  | ok built => exact quiet.step built closed (by rwa [Step.exchange_mapM build])

end Quiet

-- What an outcome with releases that fail has to do with one with releases that work, if
-- they reach the component. A fault that there is anyhow stays what it is.
structure Unhidden (off on : Outcome) : Prop where
  events : on.events = off.events
  failed : ∀ fault, off.result = .error fault → on.result = .error fault ∧ on.log = warnings on.events
  freed : ∀ result, off.result = .ok result → on.events.any Event.isFree → on.result = .error .releaseFailed
  kept : ∀ result, off.result = .ok result → ¬ on.events.any Event.isFree → on.result = .ok result

structure Unreached (off on : Outcome) : Prop where
  result : on.result = off.result
  events : on.events = off.events
  unseen : ¬ on.events.any Event.isFree
  log : on.log = off.log
  live : on.live = off.live

theorem any_free {events : List Event} : events.any Event.isFree ↔ events.countP Event.isFree ≠ 0 := by
  rw [← Nat.pos_iff_ne_zero,List.countP_pos_iff,List.any_eq_true]

theorem live_ids {library other : Library} (same : library.ids = other.ids) : library.live = other.live := by
  rw [Library.live,Library.live,← Library.ids,← Library.ids,same]

theorem Compared.unhidden {off on : EStateM.Result Fault Session Result} (compared : Compared (some .this) off on) :
    Unhidden (Session.ended off) (Session.ended on) := by
  cases compared with
  | alike left right alike =>
    rw [left,right]
    exact ⟨alike.events.symm,nofun,fun _ _ seen => absurd alike.unseen (any_free.mp seen),fun _ same _ => same⟩
  | failed left right parted =>
    rw [left,right]
    exact ⟨parted.events.symm,fun _ same => ⟨same,(parted.reached rfl).2⟩,nofun,nofun⟩
  | stuck left right stuck =>
    rw [left,right]
    have seen := any_free.mpr (ne_of_eq_of_ne stuck.seen Nat.one_ne_zero)
    exact ⟨stuck.events.symm,nofun,fun _ _ _ => rfl,fun _ _ unseen => absurd seen unseen⟩

theorem Compared.same {off on : EStateM.Result Fault Session Result} (compared : Compared owner off on)
    (other : owner ≠ some .this) : Unreached (Session.ended off) (Session.ended on) := by
  cases compared with
  | alike left right alike =>
    rw [left,right]
    refine ⟨rfl,alike.events.symm,fun any => any_free.mp any alike.unseen,?_,live_ids alike.live.symm⟩
    exact alike.log.2.trans alike.log.1.symm
  | failed left right parted =>
    obtain ⟨log,ids,unseen⟩ := parted.unreached other
    rw [left,right]
    exact ⟨rfl,parted.events.symm,fun any => any_free.mp any unseen,log.symm,live_ids ids.symm⟩
  | stuck _ _ stuck => exact absurd stuck.bound other

-- Whatever a step is asked for, releases that fail instead of working hide nothing that has
-- gone wrong. There is nothing to fail where the component has not been bound.
theorem failing_release_hides_nothing {config : Config} (read : Model.read text = .ok model)
    (generated : (model.generate config).result = .ok source) (session : Session) (asked : Step Literal)
    (fits : asked.exchange.fits model) :
    (session.bound = some .this →
      Unhidden ((session.failing false).advance model asked).1 ((session.failing true).advance model asked).1) ∧
    (session.bound ≠ some .this →
      Unreached ((session.failing false).advance model asked).1 ((session.failing true).advance model asked).1) := by
  obtain ⟨_,declared⟩ := Model.read_meets read
  have closed := Model.generate_closed generated declared
  have quiet : Quiet session.bound [] session.cleared := ⟨rfl,rfl,rfl,List.nodup_nil,nofun⟩
  have compared := quiet.run asked closed fits
  rw [Session.advance_ended,Session.advance_ended]
  constructor
  · intro bound
    rw [bound] at compared
    exact compared.unhidden
  · intro other
    exact compared.same other

def unmadeNode : Literal := .record "Node" [.value .null,.member "Shade" "dark",.value .null]

theorem failing_release_hides_nothing_sample :
    let asked : Step Literal := .call "turn" [.value (.text "up"),unmadeNode] .null true
    let session := Session.start "" (some .this)
    let on := ((session.failing true).advance sampleModel asked).1
    asked.exchange.fits sampleModel ∧
      ((session.failing false).advance sampleModel asked).1.result = .error .callFailed ∧
      on.result = .error .callFailed ∧ on.log = warnings on.events := by
  intro asked session on
  obtain ⟨source,generated⟩ := generated_sample
  have fits : asked.exchange.fits sampleModel := by decide
  have failed : ((session.failing false).advance sampleModel asked).1.result = .error .callFailed := by rfl
  obtain ⟨reached,_⟩ := failing_release_hides_nothing read_sample generated session asked fits
  obtain ⟨same,log⟩ := (reached rfl).failed _ failed
  exact ⟨fits,failed,same,log⟩

-- A buffer that is decoded before anything is bound cannot be released, which is warned
-- about although no release is seen.
theorem unreached_release_warns :
    let asked : Step Literal := .decode (.recordOf "R") (.fresh [0] none)
    let session := Session.start "libuniffi_n.so" none
    let off := ((session.failing false).advance unboundModel asked).1
    let on := ((session.failing true).advance unboundModel asked).1
    Model.read unboundText = .ok unboundModel ∧ (unboundModel.generate (Config.defaults "n")).result.isOk ∧
      unboundModel.isHygienic ∧ asked.exchange.fits unboundModel ∧
      off.result = .error (.disagreement .endedEarly) ∧ on.result = .error (.disagreement .endedEarly) ∧
      on.events = [] ∧ on.log = [⟨.warning,Act.quietWarning⟩] ∧ ¬ Unhidden off on := by
  intro asked session off on
  have failed : off.result = .error (.disagreement .endedEarly) := by rfl
  have events : on.events = [] := by rfl
  have log : on.log = [⟨.warning,Act.quietWarning⟩] := by rfl
  refine ⟨by cbv,by decide,by decide,by decide,failed,by rfl,events,log,?_⟩
  intro unhidden
  have warned := (unhidden.failed _ failed).2
  rw [events,log] at warned
  cases warned

end NativeBinding
