import NativeBinding.Proofs.Session.Settled
import NativeBinding.Proofs.Session.Transfer

namespace NativeBinding

structure Moment where
  asked : Step Literal
  before : Session
  outcome : Outcome

namespace Moment

def named (moment : Moment) : List Nat := NativeBinding.named moment.outcome.events

-- Numbers of buffers that were released without being released.
def stuck (moment : Moment) : List Nat := if moment.before.library.failFree then moment.named else []

-- The number of a buffer that was given to be decoded with nothing to release it.
def stranded (model : Model) (moment : Moment) : List Nat :=
  if moment.before.bound ≠ some .this ∧ moment.asked.strands model then [moment.before.library.made + 1] else []

def left (model : Model) (moment : Moment) : List Nat := moment.stuck ++ moment.stranded model

def handed (moment : Moment) : List Nat :=
  if moment.asked.exchange.returns then given moment.outcome.events else []

-- Whether the component can enter everything it has seen, release by release, into its
-- books: each release that names a buffer names one that is live then.
def replays (moment : Moment) : Bool :=
  ((moment.asked.exchange.setting moment.before).replay (moment.asked.exchange.opened moment.before.library)
    moment.outcome.events).isSome

end Moment

def Session.history (model : Model) (session : Session) : List (Step Literal) → List Moment
  | [] => []
  | asked :: rest =>
    let (outcome,after) := session.advance model asked
    ⟨asked,session.cleared,outcome⟩ :: history model after rest

theorem Session.advance_parts (model : Model) (session : Session) (asked : Step Literal) :
    (session.advance model asked).2 = reached (Act.run model asked session.cleared) ∧
      (session.advance model asked).1.events = (session.advance model asked).2.events ∧
      (session.advance model asked).1.live = (session.advance model asked).2.library.live := by
  rw [advance_ended]
  cases Act.run model asked session.cleared with
  | ok result after => exact ⟨rfl,rfl,rfl⟩
  | error fault after => exact ⟨rfl,rfl,rfl⟩

-- What a session leaves no doubt about. Buffers that are live after a step are those
-- whose release failed and those that could not be released, because the component was not
-- bound when they were given to be decoded; no buffer is released twice; no release names a
-- buffer that is gone, and there is one that names nothing only where a buffer without a
-- number came back; what the component keeps is never released; and without the component
-- nothing is seen at all.
structure Accounted (model : Model) (past : List Moment) : Prop where
  live : ∀ earlier moment later, past = earlier ++ moment :: later →
    moment.outcome.live.Perm ((earlier ++ [moment]).flatMap (Moment.left model))
  once : (past.flatMap Moment.named).Nodup
  replayed : ∀ moment ∈ past, moment.replays ∧ voids moment.outcome.events ≤ moment.asked.exchange.voids
  kept : ∀ moment ∈ past, ∀ number ∈ moment.handed, number ∉ past.flatMap Moment.named
  unseen : ∀ moment ∈ past, moment.before.bound ≠ some .this → moment.outcome.events = []

structure AccountedFrom (model : Model) (session : Session) (past : List Moment) : Prop where
  live : ∀ earlier moment later, past = earlier ++ moment :: later →
    moment.outcome.live.Perm (session.library.ids ++ (earlier ++ [moment]).flatMap (Moment.left model))
  fresh : ∀ number ∈ past.flatMap Moment.named ++ past.flatMap Moment.handed, session.library.made < number
  once : (past.flatMap Moment.named).Nodup
  replayed : ∀ moment ∈ past, moment.replays ∧ voids moment.outcome.events ≤ moment.asked.exchange.voids
  kept : ∀ moment ∈ past, ∀ number ∈ moment.handed, number ∉ past.flatMap Moment.named
  unseen : ∀ moment ∈ past, moment.before.bound ≠ some .this → moment.outcome.events = []

theorem AccountedFrom.nil (model : Model) (session : Session) : AccountedFrom model session [] :=
  ⟨by simp,by simp,List.nodup_nil,by simp,by simp,by simp⟩

structure Balanced (model : Model) (moment : Moment) (after : Session) : Prop where
  sound : after.library.Sound
  grown : moment.before.library.made ≤ after.library.made
  ids : after.library.ids.Perm (moment.before.library.ids ++ moment.left model)
  fresh : ∀ number ∈ moment.named ++ moment.handed, moment.before.library.made < number ∧ number ≤ after.library.made
  distinct : (moment.named ++ moment.handed).Nodup
  replayed : moment.replays ∧ voids moment.outcome.events ≤ moment.asked.exchange.voids
  unseen : moment.before.bound ≠ some .this → moment.outcome.events = []

section
variable {model : Model} {after : Session} {moment : Moment} (sound : moment.before.library.Sound)
  (events : moment.outcome.events = after.events)
include sound events

theorem Settled.balanced (bound : moment.before.bound = some .this)
    (settled : Settled (moment.asked.exchange.setting moment.before) (moment.asked.exchange.opened moment.before.library)
      moment.asked.exchange.voids after) : Balanced model moment after := by
  have named : moment.named = NativeBinding.named after.events := by rw [Moment.named,events]
  have handed : moment.handed = (moment.asked.exchange.setting moment.before).handed after.events := by
    rw [Moment.handed,events]
    rfl
  have fails : (moment.asked.exchange.setting moment.before).fails = moment.before.library.failFree := rfl
  have left : moment.left model = moment.stuck := by simp [Moment.left,Moment.stranded,bound]
  have once : moment.stuck.Nodup := by
    rw [Moment.stuck,named]
    split
    · exact (List.nodup_append.mp settled.distinct).1
    · exact List.nodup_nil
  have recent : ∀ number ∈ moment.stuck, moment.before.library.made < number := by
    intro number member
    rw [Moment.stuck] at member
    split at member
    · exact (settled.fresh number (List.mem_append_left _ (named ▸ member))).1
    · cases member
  refine ⟨settled.sound,settled.grown,?_,?_,?_,⟨?_,?_⟩,fun other => absurd bound other⟩
  · rw [left]
    refine (List.perm_ext_iff_of_nodup settled.sound.distinct ?_).mpr ?_
    · refine List.nodup_append.mpr ⟨sound.distinct,once,?_⟩
      rintro number old _ member rfl
      exact Nat.lt_irrefl _ (lt_of_lt_of_le (recent number member) (sound.made number old))
    · intro number
      rw [settled.live number,List.mem_append,Moment.stuck,fails,named]
      cases moment.before.library.failFree <;> simp [Exchange.setting]
  · rw [named,handed]
    exact settled.fresh
  · rw [named,handed]
    exact settled.distinct
  · rw [Moment.replays,events]
    exact settled.entered
  · rw [events]
    exact settled.void

theorem Unseen.balanced (other : moment.before.bound ≠ some .this) (quiet : moment.before.events = [])
    (unseen : Unseen (moment.asked.strands model) moment.before after) : Balanced model moment after := by
  have nothing : moment.outcome.events = [] := events.trans (unseen.events.trans quiet)
  have named : moment.named = [] := by rw [Moment.named,nothing]; rfl
  have handed : moment.handed = [] := by
    rw [Moment.handed,nothing]
    split <;> rfl
  have stuck : moment.stuck = [] := by
    rw [Moment.stuck,named]
    split <;> rfl
  have left : moment.left model = if moment.asked.strands model then [moment.before.library.made + 1] else [] := by
    simp [Moment.left,Moment.stranded,stuck,other]
  have books := unseen.books
  refine ⟨?_,?_,?_,?_,?_,⟨?_,?_⟩,fun _ => nothing⟩
  · split at books
    · exact (sound.make 0 [] 0).books (books.trans (by rw [Library.books,Library.ids_make]; rfl))
    · exact sound.books books
  · have made := congrArg Books.made books
    change after.library.made = _ at made
    rw [made]
    split
    · exact Nat.le_succ _
    · exact Nat.le_refl _
  · have ids := congrArg Books.live books
    change after.library.ids = _ at ids
    rw [ids,left]
    split
    · exact .refl _
    · rw [List.append_nil]
      exact .refl _
  · rw [named,handed]
    simp
  · rw [named,handed]
    exact List.nodup_nil
  · rw [Moment.replays,nothing]
    rfl
  · rw [nothing]
    exact Nat.zero_le _

end

section
variable {model : Model} {session after : Session} {moment : Moment} {past : List Moment}
  (balanced : Balanced model moment after)
include balanced

theorem Balanced.apart_later (rest : AccountedFrom model after past) (first : number ∈ moment.named ++ moment.handed) :
    number ∉ past.flatMap Moment.named ++ past.flatMap Moment.handed := by
  intro later
  have below := (balanced.fresh number first).2
  exact Nat.lt_irrefl _ (lt_of_le_of_lt below (rest.fresh number later))

theorem AccountedFrom.cons (before : moment.before.library = session.library) (live : moment.outcome.live = after.library.live) (rest : AccountedFrom model after past) :
    AccountedFrom model session (moment :: past) := by
  have own {number : Nat} (member : number ∈ moment.named ++ moment.handed) : session.library.made < number :=
    before ▸ (balanced.fresh number member).1
  have apart {number : Nat} (first : number ∈ moment.named ++ moment.handed) := balanced.apart_later rest first
  have grown : session.library.made ≤ after.library.made := before ▸ balanced.grown
  refine ⟨?live,?fresh,?once,?replayed,?kept,?unseen⟩
  case live =>
    intro earlier last later same
    have ids := balanced.ids
    rw [before] at ids
    cases earlier with
    | nil =>
      obtain ⟨rfl,_⟩ := List.cons.inj same
      rw [live]
      refine (List.mergeSort_perm _ _).trans (ids.trans ?_)
      simp
    | cons first earlier =>
      obtain ⟨rfl,tail⟩ := List.cons.inj same
      refine (rest.live earlier last later tail).trans ?_
      rw [List.cons_append,List.flatMap_cons,← List.append_assoc]
      exact ids.append_right _
  case fresh =>
    intro number member
    simp only [List.flatMap_cons,List.mem_append] at member
    rcases member with (first | others) | (first | others)
    · exact own (List.mem_append_left _ first)
    · exact lt_of_le_of_lt grown (rest.fresh number (List.mem_append_left _ others))
    · exact own (List.mem_append_right _ first)
    · exact lt_of_le_of_lt grown (rest.fresh number (List.mem_append_right _ others))
  case once =>
    rw [List.flatMap_cons]
    refine List.nodup_append.mpr ⟨(List.nodup_append.mp balanced.distinct).1,rest.once,?_⟩
    rintro number first _ others rfl
    exact apart (List.mem_append_left _ first) (List.mem_append_left _ others)
  case replayed => exact List.forall_mem_cons.mpr ⟨balanced.replayed,rest.replayed⟩
  case kept =>
    intro one member number handed
    rw [List.flatMap_cons,List.mem_append]
    rintro (first | others)
    · rcases List.mem_cons.mp member with rfl | old
      · exact (List.nodup_append.mp balanced.distinct).2.2 number first number handed rfl
      · exact apart (List.mem_append_left _ first) (List.mem_append_right _ (List.mem_flatMap.mpr ⟨one,old,handed⟩))
    · rcases List.mem_cons.mp member with rfl | old
      · exact apart (List.mem_append_right _ handed) (List.mem_append_left _ others)
      · exact rest.kept one old number handed others
  case unseen => exact List.forall_mem_cons.mpr ⟨balanced.unseen,rest.unseen⟩

end

theorem Session.advance_balanced {model : Model} (closed : ∀ type ∈ model.typeRefs, type.isClosed model)
    (session : Session) (sound : session.library.Sound) (asked : Step Literal) (fits : asked.exchange.fits model) :
    Balanced model ⟨asked,session.cleared,(session.advance model asked).1⟩ (session.advance model asked).2 := by
  obtain ⟨after,events,_⟩ := session.advance_parts model asked
  by_cases bound : session.bound = some .this
  · have settled := @run_settles model session.cleared bound sound rfl asked closed fits
    rw [← after] at settled
    exact settled.balanced sound events bound
  · have unseen : Unseen (asked.strands model) session.cleared _ := run_unseen asked bound
    rw [← after] at unseen
    exact unseen.balanced sound events bound rfl

theorem Session.history_accounted {model : Model} (closed : ∀ type ∈ model.typeRefs, type.isClosed model)
    (steps : List (Step Literal)) (fits : ∀ asked ∈ steps, asked.exchange.fits model) (session : Session)
    (sound : session.library.Sound) : AccountedFrom model session (session.history model steps) := by
  induction steps generalizing session with
  | nil => exact .nil model session
  | cons asked rest ih =>
    have balanced := session.advance_balanced closed sound asked (fits asked List.mem_cons_self)
    have others := ih (fun one member => fits one (List.mem_cons_of_mem _ member)) _ balanced.sound
    exact AccountedFrom.cons balanced rfl (session.advance_parts model asked).2.2 others

-- Whatever is asked of a session, and whatever fails on the way, every buffer is
-- accounted for, as long as buffers come back exactly where they are expected. It makes no
-- difference what is bound, and when.
theorem buffers_accounted {config : Config} (read : Model.read text = .ok model)
    (generated : (model.generate config).result = .ok source) (file : String) (owner : Option Owner)
    (steps : List (Step Literal)) (fits : ∀ asked ∈ steps, asked.exchange.fits model) :
    Accounted model ((Session.start file owner).history model steps) := by
  obtain ⟨_,declared⟩ := Model.read_meets read
  have done := Session.history_accounted (Model.generate_closed generated declared) steps fits
    (Session.start file owner) Library.sound_empty
  exact ⟨done.live,done.once,done.replayed,done.kept,done.unseen⟩

-- A node that is given to be decoded before anything is bound, and then calls that return,
-- fail and get something that cannot be read, with releases failing from some step on.
def sampleSteps : List (Step Literal) :=
  let node := Literal.record "Node" [.value .null,.member "Shade" "dark",.value .null]
  [.decode (.recordOf "Node") (.fresh [7] none),.bind none (some .this),
    .call "turn" [.value (.text "up"),node] .echo false,.call "turn" [.value (.text "up"),node] .null true,
    .adjust (some true) none,.call "turn" [.value (.text "up"),node] (.fresh [7] none) false,
    .decode (.recordOf "Node") (.fresh [0,0,0,0,2,0] none),.encode (.recordOf "Node") node]

theorem buffers_accounted_sample : (∀ asked ∈ sampleSteps, asked.exchange.fits sampleModel) ∧
    Accounted sampleModel ((Session.start "" none).history sampleModel sampleSteps) := by
  obtain ⟨source,generated⟩ := generated_sample
  have fits : ∀ asked ∈ sampleSteps, asked.exchange.fits sampleModel := by decide
  exact ⟨fits,buffers_accounted read_sample generated "" none sampleSteps fits⟩

def unboundText : String := "namespace n; record R { u32 x; };"

def unboundModel : Model := ⟨"n",[],[⟨"R",[⟨"x",.ofPlain .u32⟩]⟩],[],[]⟩

theorem unreached_buffer_left :
    let asked : Step Literal := .decode (.recordOf "R") (.fresh [0] none)
    let history := (Session.start "libuniffi_n.so" none).history unboundModel [asked]
    Model.read unboundText = .ok unboundModel ∧ (unboundModel.generate (Config.defaults "n")).result.isOk ∧
      unboundModel.isHygienic ∧ asked.exchange.fits unboundModel ∧
      history.flatMap Moment.stuck = [] ∧ history.map (fun moment => moment.outcome.live) = [[1]] :=
  ⟨by cbv,by decide,by decide +kernel,by decide,rfl,by decide +kernel⟩

end NativeBinding
