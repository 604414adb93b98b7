import NativeBinding.Proofs.Session.Unbound

namespace NativeBinding

inductive Exchange
  | call (function : String) (reply : Reply Unit) (fails : Bool)
  | decode (native : Reply Unit)
  | none

namespace Reply

def shape : Reply α → Reply Unit
  | .null => .null
  | .value _ => .value ()
  | .echo => .echo
  | .fresh content length => .fresh content length
  | .noData length => .noData length

variable (reply : Reply α)

@[simp] theorem isBuffer_shape : reply.shape.isBuffer = reply.isBuffer := by cases reply <;> rfl

@[simp] theorem sends_shape : reply.shape.sends = reply.sends := by cases reply <;> rfl

@[simp] theorem voids_shape : reply.shape.voids = reply.voids := by cases reply <;> rfl

theorem shape_mapM {build : α → Except Fault β} {reply : Reply α} (done : reply.mapM build = .ok built) :
    built.shape = reply.shape := by
  cases reply with
  | value given =>
    obtain ⟨_,_,done⟩ := result_ok_parts done
    cases done
    rfl
  | _ => cases done; rfl

end Reply

namespace Step

def exchange : Step α → Exchange
  | .call name _ reply fails => .call name reply.shape fails
  | .decode _ native => .decode native.shape
  | _ => .none

theorem exchange_mapM {build : α → Except Fault β} {asked : Step α} (done : asked.mapM build = .ok built) :
    built.exchange = asked.exchange := by
  cases asked with
  | call name values reply fails =>
    obtain ⟨_,_,done⟩ := result_ok_parts done
    obtain ⟨_,shape,done⟩ := result_ok_parts done
    cases done
    simp only [exchange,Reply.shape_mapM shape]
  | decode type native =>
    obtain ⟨_,shape,done⟩ := result_ok_parts done
    cases done
    simp only [exchange,Reply.shape_mapM shape]
  | adjust | reader | bind | liftText | refused => cases done; rfl
  | _ =>
    obtain ⟨_,_,done⟩ := result_ok_parts done
    cases done
    rfl

end Step

namespace Exchange

def returns : Exchange → Bool
  | .call _ _ fails => !fails
  | _ => true

def sends : Exchange → List Passed → Bool
  | .call _ reply _ => reply.sends
  | _ => fun _ => false

-- How many buffers without a number a step may have to release.
def voids : Exchange → Nat
  | .call _ reply fails => if fails then 0 else reply.voids
  | .decode native => native.voids
  | .none => 0

-- A buffer comes back exactly where one is expected.
def fits (model : Model) : Exchange → Bool
  | .call name reply fails => fails || (match model.function? name with
    | some function => reply.isBuffer == function.returns.any TypeRef.isBuffer
    | Option.none => true)
  | .decode native => native.isBuffer
  | .none => true

def setting (exchange : Exchange) (before : Session) : Setting := ⟨before,exchange.returns,exchange.sends⟩

-- The books that a step opens with. What is given to be decoded has been made before.
def opened (exchange : Exchange) (library : Library) : Books :=
  match exchange with
  | .decode native =>
    if native.sends [] then ⟨library.made + 1,library.ids ++ [library.made + 1]⟩ else library.books
  | _ => library.books

end Exchange

structure Settled (setting : Setting) (opened : Books) (void : Nat) (session : Session) : Prop where
  sound : session.library.Sound
  grown : setting.before.library.made ≤ session.library.made
  live : ∀ number, number ∈ session.library.ids ↔ number ∈ setting.before.library.ids ∨
    (setting.fails = true ∧ number ∈ named session.events)
  fresh : ∀ number ∈ named session.events ++ setting.handed session.events,
    setting.before.library.made < number ∧ number ≤ session.library.made
  distinct : (named session.events ++ setting.handed session.events).Nodup
  entered : (setting.replay opened session.events).isSome
  void : voids session.events ≤ void

namespace Owes
variable {setting : Setting} {opened : Books} {void : Nat} {session : Session}

theorem start (returns : Bool) (sends : List Passed → Bool) (bound : session.bound = some .this)
    (sound : session.library.Sound) (quiet : session.events = []) :
    Owes ⟨session,returns,sends⟩ session.library.books 0 [] session := by
  refine ⟨sound,bound,rfl,sound,Nat.le_refl _,?_,?_,?_,?_,?_⟩
  all_goals rw [quiet]
  · simp [named]
  · simp [named,Setting.handed,given]
  · simp [named,Setting.handed,given]
  · rfl
  · exact Nat.le_refl _

theorem settled (owes : Owes setting opened void [] session) : Settled setting opened void session where
  sound := owes.sound
  grown := owes.grown
  live := by simpa using owes.live
  fresh := owes.fresh
  distinct := owes.distinct
  entered := by rw [owes.entered]; rfl
  void := owes.void

theorem settledWithout {number : Nat} (owes : Owes setting opened void [number] session) (id : buffer.id = some number) :
    Settled setting opened void { session with library := session.library.drop buffer } where
  sound := owes.sound.drop
  grown := owes.grown
  live := by
    intro one
    have old := owes.new_held List.mem_cons_self
    have other : number ∉ named session.events := fun member =>
      (List.nodup_cons.mp owes.distinct).1 (List.mem_append_left _ member)
    simp only [Library.mem_ids_drop,id,owes.live one,List.mem_singleton]
    constructor
    · rintro ⟨early | rfl | failed,differ⟩
      · exact .inl early
      · exact absurd rfl differ
      · exact .inr failed
    · rintro (early | failed)
      · exact ⟨.inl early,fun same => old (Option.some.inj same ▸ early)⟩
      · exact ⟨.inr (.inr failed),fun same => other (Option.some.inj same ▸ failed.2)⟩
  fresh := fun one member => owes.fresh one (List.mem_cons_of_mem _ member)
  distinct := (List.nodup_cons.mp owes.distinct).2
  entered := by
    change (setting.replay opened session.events).isSome
    rw [owes.entered]
    rfl
  void := owes.void

theorem startReceived (returns : Bool) (sends : List Passed → Bool) (bound : session.bound = some .this)
    (sound : session.library.Sound) (quiet : session.events = []) (content : List UInt8) (length : Int) :
    Owes ⟨session,returns,sends⟩ ⟨session.library.made + 1,session.library.ids ++ [session.library.made + 1]⟩ 0
      [session.library.made + 1] { session with library := (session.library.make content.length content length).2 } := by
  refine ⟨sound,bound,rfl,sound.make content.length content length,Nat.le_succ _,?_,?_,?_,?_,?_⟩
  all_goals dsimp only; rw [quiet]
  · simp [Library.ids_make,named]
  · simp [named,Setting.handed,given,Library.make]
  · simp [named,Setting.handed,given]
  · rw [Library.books,Library.ids_make]
    rfl
  · exact Nat.le_refl _

end Owes

theorem Settled.still {setting : Setting} {session : Session} (opened : Books) (void : Nat) (sound : session.library.Sound) (quiet : session.events = []) (ids : session.library.ids = setting.before.library.ids)
    (made : session.library.made = setting.before.library.made) : Settled setting opened void session := by
  refine ⟨sound,made.ge,?_,?_,?_,?_,?_⟩
  all_goals rw [quiet]
  · simp [ids,named]
  · simp [named,Setting.handed,given]
  · simp [named,Setting.handed,given]
  · rfl
  · exact Nat.zero_le _

section
variable {model : Model} {session : Session}

theorem Act.Leads.reached {action : Act α} {met : Session → Prop}
    (leads : Act.Leads action session (fun _ => met) (fun _ => met)) :
    met (NativeBinding.reached (action session)) := by
  unfold Act.Leads at leads
  cases run : action session with
  | ok value after => rw [run] at leads; exact leads
  | error fault after => rw [run] at leads; exact leads

theorem Act.Stays.settles {action : Act α} (stays : Act.Stays action session) (opened : Books) (void : Nat) (exchange : Exchange)
    (sound : session.library.Sound) (quiet : session.events = []) :
    Settled (exchange.setting session) opened void (reached (action session)) := by
  rw [show reached (action session) = session from stays]
  exact .still opened void sound quiet rfl rfl

theorem stays_bind (bound : session.bound = some .this) (path : Option String) (library : Option Owner) :
    Act.Stays (Act.bind path library) session := by
  simp only [Act.Stays,Act.bind]
  rw [seq_ok get_run,bound]
  dsimp only
  split <;> rfl

variable (bound : session.bound = some .this) (sound : session.library.Sound) (quiet : session.events = [])
include bound sound quiet

theorem call_settles (name : String) (values : List Value) (reply : Reply Value) (fails : Bool)
    (closed : ∀ type ∈ model.typeRefs, type.isClosed model)
    (fits : (Exchange.call name reply.shape fails).fits model) :
    Settled ((Exchange.call name reply.shape fails).setting session) session.library.books
      (Exchange.call name reply.shape fails).voids (reached (Act.step model (.call name values reply fails) session)) := by
  have owes := Owes.start (!fails) reply.shape.sends bound sound quiet
  cases found : model.function? name with
  | none =>
    simp only [Act.step,found]
    exact (Act.stays_throw _).settles _ _ _ sound quiet
  | some function =>
    have member : function ∈ model.functions := by simpa using List.mem_of_find?_eq_some found
    have results : ∀ type ∈ function.returns, type.isClosed model := by
      intro type result
      refine closed type (List.mem_append_right _ (List.mem_flatMap.mpr ⟨function,member,?_⟩))
      exact List.mem_append_right _ (Option.mem_toList.mpr result)
    have expected : fails = false → reply.isBuffer = function.returns.any TypeRef.isBuffer := by
      intro succeeds
      simpa [Exchange.fits,found,succeeds] using fits
    have void : (Exchange.call name reply.shape fails).voids = if fails then 0 else reply.voids := by
      simp only [Exchange.voids,Reply.voids_shape]
    rw [void]
    refine Act.Leads.reached ?_
    simp only [Act.step,found]
    have done := owes.call function values reply fails results expected rfl reply.sends_shape
    refine (done.mono (fun _ _ => id) (fun _ _ owes => owes.settled)).seq ?_
    exact fun _ _ owes => Act.leads_pure owes.settled

theorem encode_settles (type : TypeRef) (value : Value) :
    Settled (Exchange.none.setting session) session.library.books 0
      (reached (Act.step model (.encode type value) session)) := by
  have owes := Owes.start true (fun _ => false) bound sound quiet
  refine Act.Leads.reached ?_
  refine ((owes.result (model.resolve type)).mono (fun _ _ => id) (fun _ _ owes => owes.settled)).seq ?_
  intro _ after owes
  refine ((owes.lowerBuffer type value).mono (fun _ _ => id) (fun _ _ owes => owes.settled)).seq ?_
  rintro buffer after ⟨number,id,owes⟩
  exact Act.leads_ok rfl (owes.settledWithout id)

theorem alloc_settles (size : Value) :
    Settled (Exchange.none.setting session) session.library.books 0
      (reached (Act.step model (.alloc size) session)) := by
  have owes := Owes.start true (fun _ => false) bound sound quiet
  cases size with
  | int size =>
    refine Act.Leads.reached ?_
    refine ((owes.alloc size).mono (fun _ _ => id) (fun _ _ owes => owes.settled)).seq ?_
    rintro buffer after ⟨number,id,owes⟩
    exact Act.leads_ok rfl (owes.settledWithout id)
  | _ => exact owes.settled

theorem answer_receives (native : Reply Value) (fits : native.isBuffer) : Act.Leads (Act.answer native none) session
    (fun returned after => ∃ buffer, returned = .buffer buffer ∧ Receives ((Exchange.decode native.shape).setting session)
      ((Exchange.decode native.shape).opened session.library) native.voids (.buffer buffer) after)
    (fun _ after => after = session) := by
  cases native with
  | null | value => cases fits
  | echo => exact rfl
  | noData length => exact ⟨_,rfl,Owes.start true (fun _ => false) bound sound quiet,rfl⟩
  | fresh content length =>
    have owes := Owes.startReceived true (fun _ => false) bound sound quiet content (length.getD content.length)
    exact ⟨_,rfl,owes⟩

theorem decode_settles (type : TypeRef) (native : Reply Value) (fits : native.isBuffer) :
    Settled ((Exchange.decode native.shape).setting session) ((Exchange.decode native.shape).opened session.library)
      native.voids (reached (Act.step model (.decode type native) session)) := by
  have still : Settled ((Exchange.decode native.shape).setting session)
      ((Exchange.decode native.shape).opened session.library) native.voids session :=
    .still _ _ sound quiet rfl rfl
  refine Act.Leads.reached ?_
  refine Act.Leads.seq (Act.leads_result (fun _ _ => show session = session from rfl) (fun _ _ => still)) ?_
  rintro _ after rfl
  refine ((answer_receives bound sound quiet native fits).mono (fun _ _ => id) (fun _ _ same => same ▸ still)).seq ?_
  rintro _ later ⟨buffer,rfl,receives⟩
  have lifted : Act.Leads (Act.liftBuffer model type buffer) later _ _ := Owes.liftReceived type buffer receives
  refine (lifted.mono (fun _ _ => id) (fun _ _ owes => owes.settled)).seq ?_
  exact fun _ _ owes => Act.leads_pure owes.settled

-- What a step may do to a session is what it may do with buffers. All other steps leave
-- the library as it is but for what it is told to do from then on.
theorem step_settles (asked : Step Value) (closed : ∀ type ∈ model.typeRefs, type.isClosed model)
    (fits : asked.exchange.fits model) : Settled (asked.exchange.setting session) (asked.exchange.opened session.library)
      asked.exchange.voids (reached (Act.step model asked session)) := by
  cases asked with
  | call name values reply fails => exact call_settles bound sound quiet name values reply fails closed fits
  | encode type value => exact encode_settles bound sound quiet type value
  | decode type native =>
    simp only [Step.exchange,Exchange.fits,Reply.isBuffer_shape] at fits
    have settled : Settled _ _ native.voids (reached (Act.step model (.decode type native) session)) :=
      decode_settles bound sound quiet type native fits
    rwa [← native.voids_shape] at settled
  | alloc size => exact alloc_settles bound sound quiet size
  | adjust failFree allocDelta =>
    exact .still _ _ ⟨sound.distinct,sound.made⟩ quiet rfl rfl
  | bind path library => exact ((stays_bind bound path library).seq (fun _ => Act.stays_pure _)).settles _ _ _ sound quiet
  | ordinal | size | writer | reader | lowerText | liftText | refused =>
    exact (Act.stays_step model _ rfl session).settles _ _ _ sound quiet

theorem run_settles (asked : Step Literal) (closed : ∀ type ∈ model.typeRefs, type.isClosed model)
    (fits : asked.exchange.fits model) : Settled (asked.exchange.setting session) (asked.exchange.opened session.library)
      asked.exchange.voids (reached (Act.run model asked session)) := by
  cases build : asked.mapM (Literal.build model) with
  | error fault =>
    simp only [Act.run,build]
    exact (Act.stays_throw fault).settles _ _ _ sound quiet
  | ok built =>
    have settled := step_settles bound sound quiet built closed (by rwa [Step.exchange_mapM build])
    rw [Step.exchange_mapM build] at settled
    simp only [Act.run,build]
    exact settled

end

end NativeBinding
