import NativeBinding.Emitted.Hygiene
import NativeBinding.Proofs.Session.Custody
import NativeBinding.Session.Step

namespace NativeBinding
open Wire

namespace Reply

-- Whether a buffer comes back, and whether it is one with a number. An echo needs a
-- buffer to be the echo of.
def isBuffer : Reply α → Bool
  | .echo => true
  | .fresh .. => true
  | .noData _ => true
  | _ => false

def sends (reply : Reply α) (arguments : List Passed) : Bool :=
  match reply with
  | .fresh .. => true
  | .echo => arguments.any (fun passed => match passed with
    | .buffer .. => true
    | .value _ => false)
  | _ => false

def voids : Reply α → Nat
  | .noData _ => 1
  | _ => 0

end Reply

def Returned.isBuffer : Returned → Bool
  | .buffer _ => true
  | _ => false

theorem Library.ids_dropAll (library : Library) {buffers : List Buffer} {numbers : List Nat} (numbered : Numbered buffers numbers) :
    (buffers.foldl drop library).ids = library.ids.filter (fun number => !numbers.contains number) ∧
      (buffers.foldl drop library).made = library.made ∧ (buffers.foldl drop library).failFree = library.failFree := by
  induction buffers generalizing library numbers with
  | nil =>
    cases numbers with
    | nil => exact ⟨(List.filter_eq_self.mpr (fun _ _ => rfl)).symm,rfl,rfl⟩
    | cons => cases numbered
  | cons buffer rest ih =>
    obtain ⟨number,more,rfl,id,others⟩ := numbered.cons_parts
    obtain ⟨_,length⟩ := buffer
    obtain rfl : _ = some number := id
    obtain ⟨ids,made,fails⟩ := ih (library.drop ⟨some number,length⟩) others
    refine ⟨?_,made,fails⟩
    rw [List.foldl_cons,ids,ids_drop_number,List.filter_filter]
    refine List.filter_congr (fun one _ => ?_)
    simp only [List.contains_cons,Bool.not_or,Bool.and_comm]
    rfl

theorem Library.Sound.exchanged {library later : Library} {numbers back : List Nat} (sound : library.Sound) (once : back.Nodup)
    (new : ∀ number ∈ back, number = library.made + 1 ∧ back.length = 1) (made : later.made = library.made + back.length)
    (ids : later.ids = library.ids.filter (fun number => !numbers.contains number) ++ back) : later.Sound where
  distinct := by
    rw [ids]
    refine List.nodup_append.mpr ⟨sound.distinct.filter _,once,?_⟩
    rintro number old _ member rfl
    have := sound.made number (List.mem_of_mem_filter old)
    have := (new number member).1
    omega
  made := by
    rw [ids,made]
    intro number member
    rcases List.mem_append.mp member with old | recent
    · exact (sound.made number (List.mem_of_mem_filter old)).trans (Nat.le_add_right _ _)
    · have := new number recent
      omega

namespace Owes
variable {setting : Setting} {opened : Books} {void : Nat} {held : List Nat} {session : Session} {model : Model}

theorem passed_numbers {arguments : List Lowered} {numbers : List Nat}
    (numbered : Numbered (arguments.filterMap Lowered.buffer?) numbers) (live : ∀ number ∈ numbers, number ∈ library.ids) :
    (arguments.map (Act.passed library)).filterMap Passed.number? = numbers := by
  induction arguments generalizing numbers with
  | nil => exact (List.map_eq_nil_iff.mp numbered.symm).symm
  | cons argument rest ih =>
    cases argument with
    | value value => exact ih numbered live
    | buffer buffer =>
      obtain ⟨number,more,rfl,id,others⟩ := numbered.cons_parts
      have known : library.isLive buffer := Library.isLive_iff.mpr ⟨number,live number List.mem_cons_self,id⟩
      rw [List.map_cons,Act.passed,if_pos known,id]
      simp only [List.filterMap_cons,Passed.number?]
      rw [ih others (fun one member => live one (List.mem_cons_of_mem _ member))]

theorem refused (owes : Owes setting opened void held session) (symbol : String) (arguments : List Passed)
    (returns : setting.returns = false) :
    Owes setting opened void held { session with events := session.events ++ [.call symbol arguments] } where
  base := owes.base
  bound := owes.bound
  fails := owes.fails
  sound := owes.sound
  grown := owes.grown
  live := by simpa [Event.named?] using owes.live
  fresh := by simpa [Event.named?,Setting.handed,returns] using owes.fresh
  distinct := by simpa [Event.named?,Setting.handed,returns] using owes.distinct
  entered := by
    rw [setting.replay_append,owes.entered,Option.bind_some]
    simp [Setting.enter,returns,Library.books]
  void := by simpa [Event.isVoid] using owes.void

end Owes

namespace Setting
variable (setting : Setting)

def back (made : Nat) (arguments : List Passed) : List Nat := if setting.sends arguments then [made + 1] else []

variable {setting}

theorem mem_back (member : number ∈ setting.back made arguments) :
    number = made + 1 ∧ (setting.back made arguments).length = 1 := by
  unfold back at member ⊢
  split
  · rename_i sends
    rw [if_pos sends] at member
    exact ⟨List.mem_singleton.mp member,rfl⟩
  · rename_i silent
    rw [if_neg silent] at member
    cases member

theorem nodup_back : (setting.back made arguments).Nodup := by
  unfold back
  split
  · exact List.nodup_singleton _
  · exact List.nodup_nil

theorem handed_returned (returns : setting.returns = true) (events : List Event) (symbol : String) (arguments : List Passed) :
    setting.handed (events ++ [.call symbol arguments]) =
      setting.handed events ++ arguments.filterMap Passed.number? := by
  simp [handed,returns,Event.given]

theorem handed_over {numbers : List Nat} (returns : setting.returns = true) (events : List Event) (symbol : String)
    {arguments : List Passed} (given : arguments.filterMap Passed.number? = numbers) :
    (numbers ++ named events ++ setting.handed events).Perm (named events ++ setting.handed (events ++ [.call symbol arguments])) := by
  rw [handed_returned returns,given,List.append_assoc,← List.append_assoc (named _)]
  exact List.perm_append_comm

end Setting

namespace Owes
variable {setting : Setting} {opened : Books} {void : Nat} {held : List Nat} {session : Session} {model : Model}

-- A call that returns keeps what it was given. What it sends back is to be accounted
-- for in its place.
theorem returned {numbers back : List Nat} {library : Library} (owes : Owes setting opened void numbers session)
    (symbol : String) (arguments : List Passed) (returns : setting.returns = true)
    (given : arguments.filterMap Passed.number? = numbers) (sent : setting.back session.library.made arguments = back)
    (made : library.made = session.library.made + back.length) (fails : library.failFree = session.library.failFree)
    (ids : library.ids = session.library.ids.filter (fun number => !numbers.contains number) ++ back) :
    Owes setting opened void back { session with
      library := library
      events := session.events ++ [.call symbol arguments] } := by
  have new {number : Nat} (member : number ∈ back) : number = session.library.made + 1 ∧ back.length = 1 :=
    sent ▸ Setting.mem_back (sent ▸ member)
  have once : back.Nodup := sent ▸ Setting.nodup_back
  have named : named (session.events ++ [.call symbol arguments]) = named session.events := by simp [Event.named?]
  have moved := setting.handed_over returns session.events symbol given
  have distinct := moved.nodup_iff.mp owes.distinct
  have fresh {number : Nat} (member : number ∈ NativeBinding.named session.events ++
      setting.handed (session.events ++ [.call symbol arguments])) := owes.fresh number (moved.mem_iff.mpr member)
  refine ⟨owes.base,owes.bound,fails.trans owes.fails,owes.sound.exchanged once (fun _ => new) made ids,?grown,?live,?fresh,
    ?distinct,?entered,?void⟩
  all_goals dsimp only
  case grown =>
    have := owes.grown
    omega
  case live =>
    intro number
    have before := owes.live number
    have early : number ∈ setting.before.library.ids → number ∉ numbers := fun early late => owes.new_held late early
    have apart : number ∈ NativeBinding.named session.events → number ∉ numbers := fun late held =>
      (List.nodup_append.mp (List.append_assoc .. ▸ owes.distinct)).2.2 number held number (List.mem_append_left _ late) rfl
    rw [named,ids,List.mem_append,List.mem_filter,before]
    simp
    tauto
  case fresh =>
    intro number member
    rw [named,List.append_assoc] at member
    rcases List.mem_append.mp member with recent | old
    · have := new recent
      have := owes.grown
      omega
    · have := fresh old
      omega
  case distinct =>
    rw [named,List.append_assoc]
    refine List.nodup_append.mpr ⟨once,distinct,?_⟩
    rintro number recent _ old rfl
    have := (new recent).1
    have := fresh old
    omega
  case entered =>
    rw [setting.replay_append,owes.entered,Option.bind_some]
    simp only [Setting.enter,returns,if_true,given,Library.books,ids,made,← sent,Setting.back]
    split
    · rfl
    · rw [List.append_nil]
      rfl
  case void => simpa [Event.isVoid] using owes.void

end Owes

-- What comes back from the component has to be accounted for if it has a number. If it
-- has none it may be seen to be released all the same.
def Receives (setting : Setting) (opened : Books) (void : Nat) (returned : Returned) (session : Session) : Prop :=
  match returned with
  | .buffer buffer =>
    match buffer.id with
    | some number => Owes setting opened 0 [number] session
    | none => Owes setting opened 0 [] session ∧ void = 1
  | _ => Owes setting opened 0 [] session

namespace Owes
variable {setting : Setting} {opened : Books} {session : Session} {model : Model}

theorem receives {number void : Nat} (owes : Owes setting opened 0 [number] session) (id : buffer.id = some number) :
    Receives setting opened void (.buffer buffer) session := by
  simp only [Receives,id]
  exact owes

theorem any_isBuffer (arguments : List Lowered) (library : Library) :
    (arguments.map (Act.passed library)).any (fun passed => match passed with
      | .buffer .. => true
      | .value _ => false) = (arguments.filterMap Lowered.buffer?).head?.isSome := by
  induction arguments with
  | nil => rfl
  | cons argument rest ih =>
    cases argument with
    | value => exact ih
    | buffer => rfl

section
variable {numbers : List Nat} {arguments : List Lowered} (numbered : Numbered (arguments.filterMap Lowered.buffer?) numbers)
  (owes : Owes setting opened 0 numbers session) (returns : setting.returns = true)
include numbered owes

theorem given_numbers : (arguments.map (Act.passed session.library)).filterMap Passed.number? = numbers :=
  passed_numbers numbered (fun _ member => owes.live_held member)

include returns

theorem silent (symbol : String) (quiet : setting.sends (arguments.map (Act.passed session.library)) = false) :
    Owes setting opened 0 [] (session.afterCall symbol arguments) := by
  obtain ⟨ids,made,failing⟩ := session.library.ids_dropAll numbered
  refine owes.returned symbol _ returns (given_numbers numbered owes) ?_ made failing (by rw [ids,List.append_nil])
  rw [Setting.back,quiet]
  rfl

theorem sending (symbol : String) (sends : setting.sends (arguments.map (Act.passed session.library)) = true)
    (content : List UInt8) (length : Int) :
    Receives setting opened 0 (.buffer ((session.afterCall symbol arguments).library.make content.length content length).1)
      { session.afterCall symbol arguments with
        library := ((session.afterCall symbol arguments).library.make content.length content length).2 } := by
  obtain ⟨ids,made,failing⟩ := session.library.ids_dropAll numbered
  have owes : Owes setting opened 0 [session.library.made + 1] { session.afterCall symbol arguments with
      library := ((session.afterCall symbol arguments).library.make content.length content length).2 } := by
    refine owes.returned symbol _ returns (given_numbers numbered owes) ?_ ?_ failing ?_
    · rw [Setting.back,sends]
      rfl
    · exact congrArg Nat.succ made
    · rw [Library.ids_make]
      exact congrArg₂ (fun ids made => ids ++ [made + 1]) ids made
  exact owes.receives (congrArg (fun made => some (made + 1)) made)

end

theorem respond (symbol : String) (arguments : List Lowered) (reply : Reply Value) (fails : Bool)
    (numbered : Numbered (arguments.filterMap Lowered.buffer?) numbers) (owes : Owes setting opened 0 numbers session)
    (returns : setting.returns = !fails) (sends : setting.sends = reply.sends) :
    Act.Leads (Act.respond symbol arguments reply fails) session
      (fun returned after => fails = false ∧ returned.isBuffer = reply.isBuffer ∧
        Receives setting opened reply.voids returned after)
      (fun _ => Owes setting opened 0 numbers) := by
  cases fails with
  | true => exact owes.refused symbol _ returns
  | false =>
    have nothing := silent numbered owes returns symbol
    have something := sending numbered owes returns symbol
    rw [sends] at nothing something
    cases reply with
    | null => exact ⟨rfl,rfl,nothing rfl⟩
    | value => exact ⟨rfl,rfl,nothing rfl⟩
    | noData length => exact ⟨rfl,rfl,nothing rfl,rfl⟩
    | fresh content length => exact ⟨rfl,rfl,something rfl content (length.getD content.length)⟩
    | echo =>
      have any := any_isBuffer arguments session.library
      unfold Act.Leads
      rw [Act.respond_returns]
      cases first : (arguments.filterMap Lowered.buffer?).head? with
      | none =>
        have empty := List.head?_eq_none_iff.mp first
        have none : numbers = [] := List.map_eq_nil_iff.mp (by rw [← show _ = _ from numbered,empty]; rfl)
        rw [none]
        exact nothing (any.trans (by rw [first]; rfl))
      | some buffer =>
        have sent := something (any.trans (by rw [first]; rfl)) (session.library.content buffer)
          (session.library.content buffer).length
        exact ⟨rfl,rfl,sent⟩

theorem foreignCall (symbol : String) (arguments : List Lowered) (reply : Reply Value) (fails : Bool)
    (numbered : Numbered (arguments.filterMap Lowered.buffer?) numbers) (owes : Owes setting opened 0 numbers session)
    (returns : setting.returns = !fails) (sends : setting.sends = reply.sends) :
    Act.Leads (Act.foreignCall symbol arguments reply fails) session
      (fun returned after => fails = false ∧ returned.isBuffer = reply.isBuffer ∧
        Receives setting opened reply.voids returned after)
      (fun _ => Owes setting opened 0 numbers) := by
  rw [Act.Leads,Act.foreignCall_bound symbol arguments reply fails owes.bound]
  exact owes.respond symbol arguments reply fails numbered returns sends

theorem liftBuffer {number void : Nat} (type : TypeRef) (id : buffer.id = some number)
    (owes : Owes setting opened void [number] session) : Act.Leads (Act.liftBuffer model type buffer) session
      (fun _ => Owes setting opened void []) (fun _ => Owes setting opened void []) := by
  refine (guarded id (owes.scan buffer _)).seq (fun value after owes => ?_)
  have freed : Act.Leads (Act.free buffer) after (fun _ => Owes setting opened void []) (fun _ => Owes setting opened void []) := by
    rw [Act.Leads,Act.free_bound buffer owes.bound]
    exact owes.release id
  exact freed.seq (fun _ _ owes => Act.leads_pure owes)

theorem liftVoid {void : Nat} (type : TypeRef) (id : buffer.id = none) (owes : Owes setting opened void [] session) :
    Act.Leads (Act.liftBuffer model type buffer) session (fun _ => Owes setting opened (void + 1) [])
      (fun _ => Owes setting opened (void + 1) []) := by
  refine (guardedVoid id (owes.scan buffer _)).seq (fun value after owes => ?_)
  have freed : Act.Leads (Act.free buffer) after (fun _ => Owes setting opened (void + 1) [])
      (fun _ => Owes setting opened (void + 1) []) := by
    rw [Act.Leads,Act.free_bound buffer owes.bound]
    exact owes.releaseVoid id
  exact freed.seq (fun _ _ owes => Act.leads_pure owes)

theorem liftReceived {void : Nat} (type : TypeRef) (buffer : Buffer)
    (receives : Receives setting opened void (.buffer buffer) session) :
    Act.Leads (Act.liftBuffer model type buffer) session (fun _ => Owes setting opened void [])
      (fun _ => Owes setting opened void []) := by
  simp only [Receives] at receives
  cases id : buffer.id with
  | some number =>
    rw [id] at receives
    exact (receives.weaken (Nat.zero_le void)).liftBuffer type id
  | none =>
    rw [id] at receives
    obtain ⟨owes,rfl⟩ := receives
    exact owes.liftVoid type id

theorem lift {void : Nat} {returned : Returned} (type : TypeRef) (closed : type.isClosed model)
    (fits : returned.isBuffer = type.isBuffer) (receives : Receives setting opened void returned session) :
    Act.Leads (Act.lift model type returned) session (fun _ => Owes setting opened void [])
      (fun _ => Owes setting opened void []) := by
  cases returned with
  | buffer buffer =>
    have lifted : Act.Leads (Act.liftBuffer model type buffer) session _ _ := liftReceived type buffer receives
    cases type with
    | plain which label aside =>
      cases which with
      | bytes => exact lifted
      | _ => cases fits
    | named which name aside =>
      cases which with
      | record => exact lifted
      | _ => cases fits
    | optional below label => exact lifted
  | null | value =>
    have owes : Owes setting opened void [] session := Owes.weaken receives (Nat.zero_le void)
    cases type with
    | plain which label aside =>
      cases which with
      | bytes => cases fits
      | boolean => exact Act.leads_pure owes
      | _ => simp only [Act.lift]; exact owes.result _
    | named which name aside =>
      cases which with
      | record => cases fits
      | enumeration => simp only [Act.lift]; exact owes.result _
      | object => cases closed
    | optional below label => cases fits

theorem call (function : Function) (values : List Value) (reply : Reply Value) (fails : Bool)
    (closed : ∀ type ∈ function.returns, type.isClosed model)
    (fits : fails = false → reply.isBuffer = function.returns.any TypeRef.isBuffer)
    (owes : Owes setting opened 0 [] session) (returns : setting.returns = !fails) (sends : setting.sends = reply.sends) :
    Act.Leads (Act.call model function values reply fails) session
      (fun _ => Owes setting opened (if fails then 0 else reply.voids) [])
      (fun _ => Owes setting opened (if fails then 0 else reply.voids) []) := by
  generalize bound : (if fails then 0 else reply.voids) = void
  have failed (fault : Fault) (after : Session) (owes : Owes setting opened 0 [] after) :
      Owes setting opened void [] after := owes.weaken (Nat.zero_le void)
  by_cases count : values.length = function.arguments.length
  · rw [Act.Leads,Act.call_bound model function values reply fails owes.bound count]
    refine ((owes.lowerAll (function.arguments.zip values) .nil).mono (fun _ _ => id) failed).seq ?_
    rintro lowered after ⟨numbers,numbered,owes⟩
    have called := owes.foreignCall (model.symbol function.name) lowered reply fails numbered returns sends
    refine ((guardedAll numbered called).mono (fun _ _ => id) failed).seq ?_
    rintro returned last ⟨rfl,same,receives⟩
    rw [if_neg (by decide)] at bound
    subst bound
    have fits := same.trans (fits rfl)
    cases result : function.returns with
    | none =>
      rw [result] at fits
      cases returned with
      | buffer => cases fits
      | null => exact Act.leads_pure (Owes.weaken receives (Nat.zero_le _))
      | value => exact Act.leads_pure (Owes.weaken receives (Nat.zero_le _))
    | some type =>
      rw [result] at fits closed
      exact lift type (closed type rfl) fits receives
  · simp only [Act.call]
    rw [if_pos count]
    exact Act.leads_throw (failed .wrongKind session owes)

end Owes
end NativeBinding
