import NativeBinding.Proofs.Session.Events
import NativeBinding.Proofs.Session.Lowering

namespace NativeBinding
open Wire

inductive Sent
  | value (value : Value)
  | content (bytes : List UInt8)

def Sent.content? : Sent → Option (List UInt8)
  | .value _ => none
  | .content bytes => some bytes

-- What a value is sent as, given what the component reports beyond the size that it is
-- asked for. No session is needed to tell.
def Model.lowering (model : Model) (delta : Int) (type : TypeRef) (value : Value) : Except Fault Sent :=
  match type with
  | .plain .u32 .. => .ok (.value value)
  | .plain .u64 .. => .ok (.value value)
  | .plain .float .. => .ok (.value value)
  | .plain .double .. => .ok (.value value)
  | .plain .boolean .. => .ok (.value (.int (if value.truthy then 1 else 0)))
  | .plain .string .. => (Act.lowerText value).map (fun encoded => .value (.bytes encoded))
  | .named .enumeration .. => (value.partOf "value").map .value
  | type => (model.lowered delta type value).map .content

def allocs (made : Nat) : List Sent → List Event
  | [] => []
  | .value _ :: rest => allocs made rest
  | .content bytes :: rest => .alloc (made + 1) (.int bytes.length) :: allocs (made + 1) rest

def passedFrom (made : Nat) : List Sent → List Passed
  | [] => []
  | .value value :: rest => .value value :: passedFrom made rest
  | .content bytes :: rest => .buffer (some (made + 1)) bytes :: passedFrom (made + 1) rest

-- What may be seen of an argument that cannot be lowered, after what was seen before: at
-- most one allocation, of the size of the value, and releases.
def Model.Tried (model : Model) (type : TypeRef) (value : Value) (number : Nat) (before after : List Event) : Prop :=
  ∃ own frees, after = before ++ own ++ frees ∧ (∀ event ∈ frees, event.isFree) ∧
    (own = [] ∨ ∃ size : Nat, model.encodedSize type value = .ok size ∧ size ≤ 0xFFFFFFFF ∧
      own = [.alloc number (.int size)])

namespace Model.Tried
variable {model : Model} {before after : List Event}

theorem nothing : model.Tried type value number before before := ⟨[],[],by simp,by simp,.inl rfl⟩

theorem released {last : List Event} (tried : model.Tried type value number before after) (same : last = after ++ extra)
    (all : ∀ event ∈ extra, event.isFree) : model.Tried type value number before last := by
  obtain ⟨own,frees,events,early,size⟩ := tried
  refine ⟨own,frees ++ extra,by rw [same,events,List.append_assoc _ frees],?_,size⟩
  intro event member
  rcases List.mem_append.mp member with old | new
  · exact early event old
  · exact all event new

end Model.Tried

namespace Session

def lend (session : Session) : Sent → Session
  | .value _ => session
  | .content bytes => session.holding bytes

def lent (session : Session) : Sent → Lowered
  | .value value => .value value
  | .content bytes => .buffer (session.nextBuffer bytes.length)

def lends (session : Session) (sents : List Sent) : Session := sents.foldl lend session

def lentAll (session : Session) : List Sent → List Lowered
  | [] => []
  | sent :: rest => session.lent sent :: (session.lend sent).lentAll rest

variable {session : Session}

@[simp] theorem lend_bound (sent : Sent) : (session.lend sent).bound = session.bound := by cases sent <;> rfl

@[simp] theorem lend_delta (sent : Sent) : (session.lend sent).library.allocDelta = session.library.allocDelta := by
  cases sent <;> rfl

theorem lend_sound (sound : session.library.Sound) (sent : Sent) : (session.lend sent).library.Sound := by
  cases sent with
  | value => exact sound
  | content bytes =>
    have made := sound.make (bytes.length : Int).toNat [] (bytes.length + session.library.allocDelta)
    exact made.store bytes

theorem lends_bound (sents : List Sent) : (session.lends sents).bound = session.bound := by
  induction sents generalizing session with
  | nil => rfl
  | cons sent rest ih => exact ih.trans (lend_bound sent)

theorem lends_made (sents : List Sent) :
    (session.lends sents).library.made = session.library.made + (sents.filterMap Sent.content?).length := by
  induction sents generalizing session with
  | nil => rfl
  | cons sent rest ih =>
    cases sent with
    | value => exact ih
    | content bytes => exact ih.trans (Nat.add_right_comm _ 1 _)

theorem lends_events (sents : List Sent) :
    (session.lends sents).events = session.events ++ allocs session.library.made sents := by
  induction sents generalizing session with
  | nil => exact (List.append_nil _).symm
  | cons sent rest ih =>
    cases sent with
    | value => exact ih
    | content bytes => exact ih.trans (List.append_assoc _ _ _)

theorem block?_lend {buffer : Buffer} {number : Nat} (id : buffer.id = some number) (old : number ≤ session.library.made)
    (sent : Sent) : (session.lend sent).library.block? buffer = session.library.block? buffer := by
  cases sent with
  | value => rfl
  | content bytes =>
    have apart : buffer.id ≠ some (session.library.made + 1) := by
      rw [id]
      rintro ⟨⟩
      omega
    have stored : (session.lend (.content bytes)).library.block? buffer = _ :=
      Library.block?_store_other apart bytes
    have made : (session.withRoom bytes.length).library.block? buffer = session.library.block? buffer :=
      Library.block?_make_other _ [] (bytes.length + session.library.allocDelta) apart
    exact stored.trans made

theorem block?_lends {buffer : Buffer} {number : Nat} (id : buffer.id = some number) (old : number ≤ session.library.made)
    (sents : List Sent) : (session.lends sents).library.block? buffer = session.library.block? buffer := by
  induction sents generalizing session with
  | nil => rfl
  | cons sent rest ih =>
    have grown : session.library.made ≤ (session.lend sent).library.made := by
      cases sent with
      | value => exact Nat.le_refl _
      | content bytes => exact Nat.le_succ _
    exact (ih (old.trans grown)).trans (block?_lend id old sent)

-- A buffer that is lent holds its content until all of them are.
theorem block?_lent (sound : session.library.Sound) (bytes : List UInt8) (rest : List Sent) :
    ((session.holding bytes).lends rest).library.block? (session.nextBuffer bytes.length) =
      some ⟨session.library.made + 1,bytes.length,bytes⟩ :=
  (block?_lends rfl (Nat.le_refl (session.library.made + 1)) rest).trans (block?_holding sound bytes)

theorem content_lent (sound : session.library.Sound) (bytes : List UInt8) (rest : List Sent) :
    ((session.holding bytes).lends rest).library.content (session.nextBuffer bytes.length) = bytes := by
  rw [Library.content_of_block (block?_lent sound bytes rest)]
  simp [Block.content]

theorem passed_lentAll (sound : session.library.Sound) (sents : List Sent) :
    (session.lentAll sents).map (Act.passed (session.lends sents).library) = passedFrom session.library.made sents := by
  induction sents generalizing session with
  | nil => rfl
  | cons sent rest ih =>
    have others := ih (lend_sound sound sent)
    cases sent with
    | value value => exact congrArg (fun passed => .value value :: passed) others
    | content bytes =>
      have live : ((session.holding bytes).lends rest).library.isLive (session.nextBuffer bytes.length) := by
        rw [Library.isLive,block?_lent sound]
        rfl
      have first : Act.passed ((session.holding bytes).lends rest).library (.buffer (session.nextBuffer bytes.length)) =
          .buffer (some (session.library.made + 1)) bytes := by
        rw [Act.passed,if_pos live,content_lent sound]
        rfl
      exact congrArg₂ List.cons first others

theorem contents_lentAll (sound : session.library.Sound) (sents : List Sent) :
    ((session.lentAll sents).filterMap Lowered.buffer?).map (session.lends sents).library.content =
      sents.filterMap Sent.content? := by
  induction sents generalizing session with
  | nil => rfl
  | cons sent rest ih =>
    have others := ih (lend_sound sound sent)
    cases sent with
    | value value => exact others
    | content bytes => exact congrArg₂ List.cons (content_lent sound bytes rest) others

end Session

namespace Act
variable {session : Session} {model : Model}

theorem lower_ways (model : Model) (type : TypeRef) (value : Value) :
    (∃ result : Except Fault Value, (∀ delta, model.lowering delta type value = result.map .value) ∧
      lower model type value = (do let found ← ofResult result; return .value found)) ∨
    (∀ delta, model.lowering delta type value = (model.lowered delta type value).map .content) ∧
      lower model type value = (do let buffer ← lowerBuffer model type value; return .buffer buffer) := by
  cases type with
  | plain which label aside =>
    cases which with
    | string =>
      refine .inl ⟨(lowerText value).map .bytes,fun _ => ?_,?_⟩
      · simp only [Model.lowering]
        cases lowerText value <;> rfl
      · simp only [lower]
        cases lowerText value <;> rfl
    | bytes => exact .inr ⟨fun _ => rfl,rfl⟩
    | boolean => exact .inl ⟨.ok (.int (if value.truthy then 1 else 0)),fun _ => rfl,rfl⟩
    | _ => exact .inl ⟨.ok value,fun _ => rfl,rfl⟩
  | named which name aside =>
    cases which with
    | enumeration => exact .inl ⟨value.partOf "value",fun _ => rfl,rfl⟩
    | _ => exact .inr ⟨fun _ => rfl,rfl⟩
  | optional below label => exact .inr ⟨fun _ => rfl,rfl⟩

theorem lower_ok (bound : session.bound = some .this)
    (done : model.lowering session.library.allocDelta type value = .ok sent) :
    lower model type value session = .ok (session.lent sent) (session.lend sent) := by
  rcases lower_ways model type value with ⟨result,sends,runs⟩ | ⟨sends,runs⟩
  all_goals rw [sends] at done
  all_goals rw [runs]
  · cases result with
    | error fault => cases done
    | ok found => cases done; rfl
  · cases content : model.lowered session.library.allocDelta type value with
    | error fault => rw [content] at done; cases done
    | ok bytes =>
      rw [content] at done
      cases done
      rw [seq_ok (lowerBuffer_ok bound content)]
      rfl

theorem shows_quietly (buffer : Buffer) : Shows (fun event => event.isFree) (freeQuietly buffer) :=
  shows_freeQuietly (fun _ => rfl) buffer

theorem alloc_tried (size : Nat) (bound : session.bound = some .this) (sized : model.encodedSize type value = .ok size) :
    Leads (alloc size) session (fun _ after => size ≤ 0xFFFFFFFF ∧ after = session.withRoom size)
      (fun _ after => model.Tried type value (session.library.made + 1) session.events after.events) := by
  by_cases large : largestBuffer < size
  · exact leads_error (alloc_oversized large) (.nothing)
  · have fits := Int.not_lt.mp large
    have small : size ≤ 0xFFFFFFFF := by
      simp only [largestBuffer] at fits
      omega
    by_cases exact : Library.reported (size + session.library.allocDelta) = size
    · exact leads_ok (alloc_ok bound fits exact) ⟨small,rfl⟩
    · obtain ⟨later,released⟩ := freeQuietly_ok
        ⟨some (session.library.made + 1),Library.reported (size + session.library.allocDelta)⟩ (session.withRoom size)
      obtain ⟨frees,same,all⟩ := shows_quietly
        ⟨some (session.library.made + 1),Library.reported (size + session.library.allocDelta)⟩ (session.withRoom size)
      rw [released] at same
      exact leads_error (alloc_wrong bound fits exact released) ⟨_,frees,same,all,.inr ⟨size,sized,small,rfl⟩⟩

theorem lowerBuffer_tried (bound : session.bound = some .this) :
    Leads (lowerBuffer model type value) session (fun _ _ => True)
      (fun _ after => model.Tried type value (session.library.made + 1) session.events after.events) := by
  cases sized : model.encodedSize type value with
  | error cause =>
    simp only [lowerBuffer,sized]
    exact .nothing
  | ok size =>
    simp only [lowerBuffer,sized]
    refine (alloc_tried size bound sized).seq ?_
    rintro buffer _ ⟨small,rfl⟩
    have filled : Shows (fun event => event.isFree) (do
        guarding buffer (fill buffer (do model.encode type value; Write.finish))
        return buffer) :=
      (shows_guarding (fun _ => rfl) buffer (shows_fill buffer _)).seq (fun _ => shows_pure buffer)
    obtain ⟨frees,same,all⟩ := filled (session.withRoom size)
    unfold Leads
    split
    · trivial
    · rename_i run
      rw [run] at same
      exact ⟨_,frees,same,all,.inr ⟨size,sized,small,rfl⟩⟩

theorem lower_error (bound : session.bound = some .this)
    (failed : model.lowering session.library.allocDelta type value = .error fault) :
    ∃ after, lower model type value session = .error fault after ∧
      model.Tried type value (session.library.made + 1) session.events after.events := by
  rcases lower_ways model type value with ⟨result,sends,runs⟩ | ⟨sends,runs⟩
  all_goals rw [sends] at failed
  all_goals rw [runs]
  · cases result with
    | ok found => cases failed
    | error cause => cases failed; exact ⟨session,rfl,.nothing⟩
  · cases content : model.lowered session.library.allocDelta type value with
    | ok bytes => rw [content] at failed; cases failed
    | error cause =>
      rw [content] at failed
      cases failed
      obtain ⟨after,failed⟩ := lowerBuffer_error bound content
      have tried := @lowerBuffer_tried session model type value bound
      rw [Leads,failed] at tried
      exact ⟨after,seq_error failed,tried⟩

def lowerings (model : Model) (delta : Int) (arguments : List (Field × Value)) : List (Except Fault Sent) :=
  arguments.map (fun argument => model.lowering delta argument.1.type argument.2)

theorem lowerAll_ok (held : List Buffer) (arguments : List (Field × Value)) {sents : List Sent}
    (bound : session.bound = some .this)
    (all : lowerings model session.library.allocDelta arguments = sents.map .ok) :
    lowerAll model held arguments session = .ok (session.lentAll sents) (session.lends sents) := by
  induction arguments generalizing held sents session with
  | nil =>
    cases sents with
    | nil => rfl
    | cons => cases all
  | cons argument rest ih =>
    obtain ⟨field,value⟩ := argument
    cases sents with
    | nil => cases all
    | cons sent sents =>
      obtain ⟨first,others⟩ := List.cons.inj all
      rw [← session.lend_delta sent] at others
      have done := ih (held ++ (session.lent sent).buffer?.toList) ((session.lend_bound sent).trans bound) others
      simp only [lowerAll,lower_ok bound first]
      rw [seq_ok done]
      rfl

-- The first argument that has nothing to be sent as decides, whatever comes after it.
theorem lowerAll_error (held : List Buffer) (before : List (Field × Value)) {sents : List Sent} {field : Field}
    (bound : session.bound = some .this) (all : lowerings model session.library.allocDelta before = sents.map .ok)
    (failed : model.lowering session.library.allocDelta field.type value = .error fault) :
    ∃ after, (∀ later, lowerAll model held (before ++ (field,value) :: later) session = .error fault after) ∧
      model.Tried field.type value ((session.lends sents).library.made + 1) (session.lends sents).events after.events := by
  induction before generalizing held sents session with
  | nil =>
    cases sents with
    | cons => cases all
    | nil =>
      obtain ⟨reached,run,tried⟩ := lower_error bound failed
      obtain ⟨after,released⟩ := freeAll_ok held reached
      have shows : Shows (fun event => event.isFree) (freeAll held) := shows_freeAll (fun _ => rfl) held
      obtain ⟨frees,same,free⟩ := shows reached
      rw [released] at same
      refine ⟨after,?_,tried.released same free⟩
      intro later
      simp only [List.nil_append,lowerAll,run]
      rw [seq_ok released]
      rfl
  | cons argument before ih =>
    obtain ⟨earlier,given⟩ := argument
    cases sents with
    | nil => cases all
    | cons sent sents =>
      obtain ⟨first,others⟩ := List.cons.inj all
      rw [← session.lend_delta sent] at others failed
      obtain ⟨after,run,tried⟩ := ih (held ++ (session.lent sent).buffer?.toList) ((session.lend_bound sent).trans bound)
        others failed
      refine ⟨after,?_,tried⟩
      intro later
      simp only [List.cons_append,lowerAll,lower_ok bound first]
      exact seq_error (run later)

end Act
end NativeBinding
