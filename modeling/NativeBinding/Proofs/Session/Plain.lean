import NativeBinding.Proofs.Session.Lifting
import NativeBinding.Session.Program

namespace NativeBinding
open Wire

namespace Session

def cleared (session : Session) : Session := { session with events := [],log := [] }

-- A step that starts with a buffer from the component, and these bytes in it.
def received (session : Session) (bytes : List UInt8) : Session :=
  { session.cleared with library := (session.library.make bytes.length bytes bytes.length).2 }

def ended (result : EStateM.Result Fault Session Result) : Outcome :=
  match result with
  | .ok value after => ⟨.ok value,after.events,after.library.live,after.log⟩
  | .error fault after => ⟨.error fault,after.events,after.library.live,after.log⟩

theorem advance_ended (model : Model) (session : Session) (asked : Step Literal) :
    session.advance model asked =
      (ended (Act.run model asked session.cleared),reached (Act.run model asked session.cleared)) := by
  unfold advance advanceBy
  rw [← cleared]
  cases Act.run model asked session.cleared <;> rfl

variable {session : Session}

theorem holds_received (sound : session.library.Sound) (bytes : List UInt8) :
    (session.received bytes).Holds (session.nextBuffer bytes.length) bytes := by
  have made := Library.block?_make sound bytes.length bytes bytes.length
  have same : (session.received bytes).library.block? (session.nextBuffer bytes.length) =
      (session.library.make bytes.length bytes bytes.length).2.block? (session.library.make bytes.length bytes bytes.length).1 := by
    simp only [Library.block?]
    rfl
  rw [← same] at made
  refine ⟨?_,rfl⟩
  rw [Library.content_of_block made]
  simp [Block.content]

end Session

namespace Act
variable {session after : Session} {model : Model} {literal : Literal} {value : Value}

theorem run_built {given : Step Value} (built : asked.mapM (Literal.build model) = .ok given) : run model asked session = step model given session := by
  rw [run,built]
  exact seq_ok (ofResult_ok _)

section
variable (built : literal.build model = .ok value) (resolved : model.resolve type = .ok ())
include built resolved

theorem run_size (sized : model.encodedSize type value = .ok size) :
    run model (.size type literal) session = .ok (.value (.int size)) session := by
  have given : (Step.size type literal).mapM (Literal.build model) = .ok (.size type value) := by rw [Step.mapM,built]; rfl
  rw [run_built given,step,resolved,sized]
  rfl

theorem run_encode (lowered : lowerBuffer model type value session = .ok buffer after) : run model (.encode type literal) session =
    .ok (.content (after.library.content buffer)) { after with library := after.library.drop buffer } := by
  have given : (Step.encode type literal).mapM (Literal.build model) = .ok (.encode type value) := by rw [Step.mapM,built]; rfl
  rw [run_built given,step,resolved,seq_ok (ofResult_ok _),seq_ok lowered]
  rfl

theorem run_encode_error (failed : lowerBuffer model type value session = .error fault after) :
    run model (.encode type literal) session = .error fault after := by
  have given : (Step.encode type literal).mapM (Literal.build model) = .ok (.encode type value) := by rw [Step.mapM,built]; rfl
  rw [run_built given,step,resolved,seq_ok (ofResult_ok _)]
  exact seq_error failed

end

theorem answer_fresh (small : (bytes.length : Int) ≤ largestBuffer) : answer (.fresh bytes none) none session.cleared =
    .ok (.buffer (session.nextBuffer bytes.length)) (session.received bytes) := by
  have exact := Library.reported_small (Int.natCast_nonneg bytes.length) small
  rw [Session.nextBuffer,← exact]
  rfl

variable {bytes : List UInt8} (resolved : model.resolve type = .ok ()) (small : (bytes.length : Int) ≤ largestBuffer)
include resolved small

theorem run_answered : run model (.decode type (.fresh bytes none)) session.cleared =
    (liftBuffer model type (session.nextBuffer bytes.length) >>= fun value => pure (.value value)) (session.received bytes) := by
  have given : (Step.decode type (.fresh bytes none)).mapM (Literal.build model) = .ok (.decode type (.fresh bytes none)) := rfl
  rw [run_built given,step,resolved,seq_ok (ofResult_ok _),seq_ok (answer_fresh small)]
  rfl

theorem run_decode (lifted : liftBuffer model type (session.nextBuffer bytes.length) (session.received bytes) = .ok value after) :
    run model (.decode type (.fresh bytes none)) session.cleared = .ok (.value value) after := by
  rw [run_answered resolved small]
  exact seq_ok lifted

theorem run_decode_error
    (failed : liftBuffer model type (session.nextBuffer bytes.length) (session.received bytes) = .error fault after) :
    run model (.decode type (.fresh bytes none)) session.cleared = .error fault after := by
  rw [run_answered resolved small]
  exact seq_error failed

end Act

namespace TypeRef
variable {model : Model}

theorem plain_closed (hygienic : model.isHygienic) (type : TypeRef) (closed : type.isClosed model) : Step.typePlain type := by
  simp only [Model.isHygienic,Bool.and_eq_true,List.all_eq_true] at hygienic
  have plain {name : String} (defined : name ∈ model.definedNames) : isPlainName name := by
    have free := hygienic.1.1.1.1.1.1.2 name defined
    simp only [isFreeName,Bool.and_eq_true] at free
    exact free.1.1
  induction type with
  | plain => rfl
  | named which name aside =>
    suffices fine : isPlainName name by simp [Step.typePlain,mentioned,fine]
    cases which with
    | enumeration =>
      obtain ⟨found,known⟩ := Option.isSome_iff_exists.mp closed
      refine plain (List.mem_append_left _ (List.mem_append_left _ (List.mem_map.mpr ⟨found,Model.enumeration?_mem known,?_⟩)))
      exact Model.enumeration?_name known
    | record =>
      obtain ⟨found,known⟩ := Option.isSome_iff_exists.mp closed
      refine plain (List.mem_append_left _ (List.mem_append_right _ (List.mem_map.mpr ⟨found,Model.record?_mem known,?_⟩)))
      exact Model.record?_name known
    | object => cases closed
  | optional inner label ih => exact ih closed

end TypeRef

namespace Program

-- Where all names stand for what they were declared for, and nothing else is asked for,
-- a program does what its session does. The module that was loaded has no part in it.
def withSession (program : Program) (session : Session) : Program :=
  { program with world := { program.world with session := session } }

variable {program : Program}

theorem advance_plain (hygienic : program.model.isHygienic) (plain : asked.isPlain program.model) :
    program.advance asked = ((program.session.advance program.model asked).1,
      program.withSession (program.session.advance program.model asked).2) := by
  simp only [advance,act,hygienic,plain,if_true,Session.outcomeOf,Session.advance,Session.advanceBy,session]
  cases Act.run program.model asked _ <;> rfl

structure Ready (program : Program) (model : Model) : Prop where
  model : program.model = model
  bound : program.session.bound = some .this
  sound : program.session.library.Sound

namespace Ready
variable {model : Model} (ready : program.Ready model) (hygienic : model.isHygienic)
include ready hygienic

theorem shows {asked : Step Literal} (plain : asked.isPlain model) :
    (program.advance asked).1 = Session.ended (Act.run model asked program.session.cleared) := by
  obtain ⟨rfl,_,_⟩ := ready
  rw [advance_plain hygienic plain,Session.advance_ended]

variable {type : TypeRef} (closed : type.isClosed model)
include closed

theorem shows_typed {asked : Step Literal} {others : Bool} (names : asked.isPlain model = (Step.typePlain type && others))
    (plain : others) : (program.advance asked).1 = Session.ended (Act.run model asked program.session.cleared) := by
  refine ready.shows hygienic ?_
  rw [names]
  exact Bool.and_eq_true_iff.mpr ⟨TypeRef.plain_closed hygienic type closed,plain⟩

variable (resolved : model.resolve type = .ok ())
include resolved

section
variable {literal : Literal} (built : literal.build model = .ok value) (plain : literal.isPlain model)
include built plain

theorem sizes (sized : model.encodedSize type value = .ok size) :
    (program.advance (.size type literal)).1.result = .ok (.value (.int size)) := by
  rw [ready.shows_typed hygienic closed rfl plain,Act.run_size built resolved sized]
  rfl

theorem encodes (lowered : Act.lowerBuffer model type value program.session.cleared = .ok buffer after) :
    (program.advance (.encode type literal)).1.result = .ok (.content (after.library.content buffer)) := by
  rw [ready.shows_typed hygienic closed rfl plain,Act.run_encode built resolved lowered]
  rfl

theorem encodes_error (failed : Act.lowerBuffer model type value program.session.cleared = .error fault after) :
    (program.advance (.encode type literal)).1.result = .error fault ∧
      (program.advance (.encode type literal)).1.events = after.events := by
  rw [ready.shows_typed hygienic closed rfl plain,Act.run_encode_error built resolved failed]
  exact ⟨rfl,rfl⟩

end

variable {bytes : List UInt8} (small : (bytes.length : Int) ≤ Act.largestBuffer)
include small

theorem decodes (lifted : Act.liftBuffer model type (program.session.nextBuffer bytes.length) (program.session.received bytes) =
    .ok value after) : (program.advance (.decode type (.fresh bytes none))).1.result = .ok (.value value) := by
  rw [ready.shows_typed hygienic closed rfl rfl,Act.run_decode resolved small lifted]
  rfl

theorem decodes_error
    (failed : Act.liftBuffer model type (program.session.nextBuffer bytes.length) (program.session.received bytes) =
      .error fault after) : (program.advance (.decode type (.fresh bytes none))).1.result = .error fault ∧
      (program.advance (.decode type (.fresh bytes none))).1.events = after.events := by
  rw [ready.shows_typed hygienic closed rfl rfl,Act.run_decode_error resolved small failed]
  exact ⟨rfl,rfl⟩

end Ready
end Program
end NativeBinding
