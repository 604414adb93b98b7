import NativeBinding.Proofs.Session.Arguments
import NativeBinding.Proofs.Session.Transfer

namespace NativeBinding
open Wire

def Session.handOver (session : Session) (symbol : String) (sents : List Sent) : Session :=
  { session.lends sents with
    library := ((session.lentAll sents).filterMap Lowered.buffer?).foldl Library.drop (session.lends sents).library
    events := session.events ++ allocs session.library.made sents ++
      [.call symbol (passedFrom session.library.made sents)] }

namespace Act
variable {session : Session} {model : Model} {function : Function}

-- A call whose arguments are all sent: all buffers are made, then the component is called
-- with them, and from then on there are only releases to be seen. What comes of it is
-- what comes of lifting the answer.
structure Called (model : Model) (function : Function) (reply : Reply Value) (fails : Bool) (session : Session)
    (sents : List Sent) (run : EStateM.Result Fault Session Value) : Prop where
  small : ∀ bytes, .content bytes ∈ sents → bytes.length ≤ 0xFFFFFFFF
  events : ∃ frees, (∀ event ∈ frees, event.isFree) ∧ (reached run).events =
    session.events ++ allocs session.library.made sents ++
      .call (model.symbol function.name) (passedFrom session.library.made sents) :: frees
  refused : fails = true → ∃ after, run = .error .callFailed after
  answered : fails = false →
    match answer reply (sents.filterMap Sent.content?).head? (session.handOver (model.symbol function.name) sents) with
    | .error fault _ => ∃ after, run = .error fault after
    | .ok returned after => run = match function.returns with
      | none => .ok .null after
      | some type => lift model type returned after

-- A call that ends at an argument that cannot be sent, after some that were. Later
-- arguments make no difference, and the component is not called.
structure Stopped (model : Model) (function : Function) (reply : Reply Value) (fails : Bool) (session : Session)
    (values : List Value) (sents : List Sent) (fault : Fault) (after : Session) : Prop where
  alike : ∀ others, others.length = function.arguments.length →
    others.take (sents.length + 1) = values.take (sents.length + 1) →
      call model function others reply fails session = .error fault after
  tried : ∃ field value, (function.arguments.zip values)[sents.length]? = some (field,value) ∧
    model.Tried field.type value (session.library.made + (sents.filterMap Sent.content?).length + 1)
      (session.events ++ allocs session.library.made sents) after.events

theorem lowering_small {bytes : List UInt8} (done : model.lowering delta type value = .ok (.content bytes)) :
    bytes.length ≤ 0xFFFFFFFF := by
  rcases lower_ways model type value with ⟨result,sends,_⟩ | ⟨sends,_⟩
  all_goals rw [sends] at done
  · cases result <;> cases done
  · cases lowered : model.lowered delta type value with
    | error fault => rw [lowered] at done; cases done
    | ok found =>
      rw [lowered] at done
      cases done
      have fits := (Model.lowered_length lowered).2
      simp only [largestBuffer] at fits
      omega

theorem lowerings_small {sents : List Sent} {bytes : List UInt8}
    (all : lowerings model delta arguments = sents.map .ok) (member : .content bytes ∈ sents) :
    bytes.length ≤ 0xFFFFFFFF := by
  have sent : Except.ok (.content bytes) ∈ lowerings model delta arguments := all ▸ List.mem_map_of_mem member
  obtain ⟨_,_,done⟩ := List.mem_map.mp sent
  exact lowering_small done

theorem respond_lent (symbol : String) (sents : List Sent) (reply : Reply Value) (sound : session.library.Sound) :
    respond symbol (session.lentAll sents) reply false (session.lends sents) =
      answer reply (sents.filterMap Sent.content?).head? (session.handOver symbol sents) := by
  rw [respond_returns,← List.head?_map,Session.contents_lentAll sound,Session.afterCall,Session.passed_lentAll sound,
    Session.lends_events]
  rfl

theorem shows_answer {kind : Event → Prop} (reply : Reply Value) (echoed : Option (List UInt8)) :
    Shows kind (answer reply echoed) := by
  have fresh (session : Session) (content : List UInt8) (length : Int) : Shows kind (answer.fresh session content length) :=
    (shows_onLibrary _).seq (fun _ => shows_pure _)
  refine shows_get.seq (fun session => ?_)
  cases reply with
  | null => exact shows_pure _
  | value => exact shows_pure _
  | noData => exact shows_pure _
  | fresh content length => exact fresh session content _
  | echo =>
    cases echoed with
    | none => exact shows_throw _
    | some content => exact fresh session content _

theorem foreignCall_refused (symbol : String) (sents : List Sent) (reply : Reply Value) (bound : session.bound = some .this)
    (sound : session.library.Sound) : foreignCall symbol (session.lentAll sents) reply true (session.lends sents) =
      .error .callFailed { session.lends sents with
        events := session.events ++ allocs session.library.made sents ++
          [.call symbol (passedFrom session.library.made sents)] } := by
  rw [foreignCall_bound _ _ _ _ ((session.lends_bound sents).trans bound),respond_fails,Session.passed_lentAll sound,
    Session.lends_events]

theorem foreignCall_answered (symbol : String) (sents : List Sent) (reply : Reply Value) (bound : session.bound = some .this)
    (sound : session.library.Sound) : foreignCall symbol (session.lentAll sents) reply false (session.lends sents) =
      answer reply (sents.filterMap Sent.content?).head? (session.handOver symbol sents) ∧
    (reached (answer reply (sents.filterMap Sent.content?).head? (session.handOver symbol sents))).events =
      session.events ++ allocs session.library.made sents ++ [.call symbol (passedFrom session.library.made sents)] := by
  rw [foreignCall_bound _ _ _ _ ((session.lends_bound sents).trans bound),respond_lent _ _ _ sound]
  have nothing : Shows (fun _ => False) (answer reply (sents.filterMap Sent.content?).head?) := shows_answer _ _
  obtain ⟨extra,still,empty⟩ := nothing (session.handOver symbol sents)
  obtain rfl := List.eq_nil_iff_forall_not_mem.mpr empty
  rw [List.append_nil] at still
  exact ⟨rfl,still⟩

theorem guardingAll_failed {buffers : List Buffer} {action : Act α} (failed : action session = .error fault after) :
    ∃ last frees, guardingAll buffers action session = .error fault last ∧ (∀ event ∈ frees, event.isFree) ∧
      last.events = after.events ++ frees := by
  obtain ⟨last,released,done⟩ := guardingAll_error failed
  have quiet : Shows (fun event => event.isFree) (freeAll buffers) := shows_freeAll (fun _ => rfl) buffers
  obtain ⟨frees,same,free⟩ := quiet after
  rw [released] at same
  exact ⟨last,frees,done,free,same⟩

theorem call_sent (reply : Reply Value) (fails : Bool) (bound : session.bound = some .this) (sound : session.library.Sound)
    (count : values.length = function.arguments.length) {sents : List Sent}
    (all : lowerings model session.library.allocDelta (function.arguments.zip values) = sents.map .ok) :
    Called model function reply fails session sents (call model function values reply fails session) := by
  have run := call_bound model function values reply fails bound count
  rw [seq_ok (lowerAll_ok [] _ bound all)] at run
  have small := fun bytes => @lowerings_small _ _ _ sents bytes all
  cases fails with
  | true =>
    obtain ⟨last,frees,failed,free,same⟩ := guardingAll_failed
      (foreignCall_refused (model.symbol function.name) sents reply bound sound)
    rw [seq_error failed] at run
    refine ⟨small,⟨frees,free,?_⟩,fun _ => ⟨last,run⟩,nofun⟩
    rw [run]
    exact same.trans (List.append_assoc _ _ _)
  | false =>
    obtain ⟨foreign,still⟩ := foreignCall_answered (model.symbol function.name) sents reply bound sound
    cases answered : answer reply (sents.filterMap Sent.content?).head? (session.handOver (model.symbol function.name) sents) with
    | error fault after =>
      rw [answered] at foreign still
      obtain ⟨last,frees,failed,free,same⟩ := guardingAll_failed foreign
      rw [seq_error failed] at run
      refine ⟨small,⟨frees,free,?_⟩,nofun,?_⟩
      · rw [run]
        exact (same.trans (congrArg (fun events => events ++ frees) still)).trans (List.append_assoc _ _ _)
      · rw [answered]
        exact fun _ => ⟨last,run⟩
    | ok returned after =>
      rw [answered] at foreign still
      rw [seq_ok (guardingAll_ok foreign)] at run
      have lifted : ∃ frees, (∀ event ∈ frees, event.isFree) ∧
          (reached (call model function values reply false session)).events = after.events ++ frees := by
        rw [run]
        cases function.returns with
        | none => exact ⟨[],by simp,(List.append_nil _).symm⟩
        | some type =>
          have shows : Shows (fun event => event.isFree) (lift model type returned) := shows_lift (fun _ => rfl) model _ _
          obtain ⟨frees,same,free⟩ := shows after
          exact ⟨frees,free,same⟩
      obtain ⟨frees,free,same⟩ := lifted
      refine ⟨small,⟨frees,free,?_⟩,nofun,?_⟩
      · exact (same.trans (congrArg (fun events => events ++ frees) still)).trans (List.append_assoc _ _ _)
      · rw [answered]
        intro _
        dsimp only
        rw [run]
        cases function.returns <;> rfl

theorem call_stopped (reply : Reply Value) (fails : Bool) (bound : session.bound = some .this)
    {sents : List Sent} {later : List (Except Fault Sent)}
    (first : lowerings model session.library.allocDelta (function.arguments.zip values) =
      sents.map .ok ++ .error fault :: later) :
    ∃ after, Stopped model function reply fails session values sents fault after := by
  obtain ⟨before,rest,split,all,rest'⟩ := List.map_eq_append_iff.mp first
  obtain ⟨⟨field,value⟩,others,rfl,failed,_⟩ := List.map_eq_cons_iff.mp rest'
  have length : before.length = sents.length := by simpa using congrArg List.length all
  obtain ⟨after,run,tried⟩ := lowerAll_error [] before bound all failed
  rw [Session.lends_made,Session.lends_events] at tried
  refine ⟨after,⟨?_,field,value,?_,tried⟩⟩
  · intro given same alike
    have prefixed : (function.arguments.zip given).take (sents.length + 1) = before ++ [(field,value)] := by
      rw [List.zip,List.take_zipWith,alike,← List.take_zipWith,← List.zip,split,← length]
      rw [List.take_append,List.take_of_length_le (Nat.le_succ _),Nat.add_sub_cancel_left]
      rfl
    have parts := List.take_append_drop (sents.length + 1) (function.arguments.zip given)
    rw [prefixed,List.append_assoc] at parts
    rw [call_bound model function given reply fails bound same,← parts]
    exact seq_error (run _)
  · rw [split,← length]
    simp

-- What a call does is settled by what its arguments are sent as: the component is called
-- once if all of them can be sent, and not at all if one cannot.
theorem call_outcome (model : Model) (function : Function) (values : List Value) (reply : Reply Value) (fails : Bool)
    (session : Session) (bound : session.bound = some .this) (sound : session.library.Sound)
    (count : values.length = function.arguments.length) :
    (∃ sents, lowerings model session.library.allocDelta (function.arguments.zip values) = sents.map .ok ∧
      Called model function reply fails session sents (call model function values reply fails session)) ∨
    (∃ sents fault later, lowerings model session.library.allocDelta (function.arguments.zip values) =
        sents.map .ok ++ .error fault :: later ∧
      ∃ after, call model function values reply fails session = .error fault after ∧
        Stopped model function reply fails session values sents fault after) := by
  rcases all_ok_or_first (lowerings model session.library.allocDelta (function.arguments.zip values)) with
    ⟨sents,all⟩ | ⟨sents,fault,later,first⟩
  · exact .inl ⟨sents,all,call_sent reply fails bound sound count all⟩
  · obtain ⟨after,stopped⟩ := call_stopped reply fails bound first
    exact .inr ⟨sents,fault,later,first,after,stopped.alike values count rfl,stopped⟩

theorem call_outcome_sample : ∃ frees, (∀ event ∈ frees, event.isFree) ∧
    (reached (call sampleModel sampleFunction [.text "up",.record "Node" (sampleRows.map Row.named)] .null false
      (Session.start "" (some .this)))).events = [.alloc 1 (.int 11),.call "geo_turn" [.value (.bytes [117,112]),
        .buffer (some 1) (encoding (sampleRows.flatMap Row.items))]] ++ frees := by
  have whole : LaidWhole sampleModel (.recordOf "Node") _ _ := .record laid_sample
  have content := whole.lowered (Model.read_meets read_sample).1 (by decide)
  have sends : lowerings sampleModel 0 (sampleFunction.arguments.zip [.text "up",.record "Node" (sampleRows.map Row.named)]) =
      [.value (.bytes [117,112]),.content (encoding (sampleRows.flatMap Row.items))].map .ok := by
    refine congrArg₂ List.cons rfl (congrArg₂ List.cons ?_ rfl)
    exact congrArg (Except.map Sent.content) content
  rcases call_outcome sampleModel sampleFunction [.text "up",.record "Node" (sampleRows.map Row.named)] .null false
    (Session.start "" (some .this)) rfl Library.sound_empty rfl with ⟨sents,all,called⟩ | ⟨sents,fault,later,first,_⟩
  · obtain rfl : sents = _ := List.map_injective_iff.mpr (fun _ _ same => Except.ok.inj same) (all.symm.trans sends)
    exact called.events
  · have failed : Except.error fault ∈ List.map Except.ok _ := sends ▸ first ▸ List.mem_append_right _ List.mem_cons_self
    obtain ⟨_,_,wrong⟩ := List.mem_map.mp failed
    cases wrong

end Act
end NativeBinding
