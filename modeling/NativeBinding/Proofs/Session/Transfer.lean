import NativeBinding.Proofs.Codec.Accept
import NativeBinding.Proofs.Emitted.Accepted
import NativeBinding.Proofs.Session.Plain

namespace NativeBinding
open Wire

structure Program.RoundTrips (program : Program) (type : TypeRef) (literal : Literal) (value : Value) (content : List UInt8) :
    Prop where
  size : (program.advance (.size type literal)).1.result = .ok (.value (.int content.length))
  encode : content.length ≤ 0xFFFFFFFF → program.session.library.allocDelta = 0 →
    (program.advance (.encode type literal)).1.result = .ok (.content content)
  oversized : 0xFFFFFFFF < content.length →
    (program.advance (.encode type literal)).1.result = .error (.oversized content.length) ∧
      (program.advance (.encode type literal)).1.events = []
  decode : content.length < 0x80000000 → program.session.library.failFree = false → ∃ lifted,
    (program.advance (.decode type (.fresh content none))).1.result = .ok (.value lifted) ∧ lifted.unified = value.unified
  long : 0x80000000 ≤ content.length → content.length < 0xFFFFFFFF →
    (program.advance (.decode type (.fresh content none))).1.result = .error .negativeSize

section
variable {model : Model}

theorem LaidWhole.lowers (laid : LaidWhole model type value items) (distinct : model.Distinct) (session : Session)
    (bound : session.bound = some .this) (fits : (encoding items).length ≤ 0xFFFFFFFF) (exact : session.library.allocDelta = 0) :
    Act.lowerBuffer model type value session =
      .ok (session.nextBuffer (encoding items).length) (session.holding (encoding items)) := by
  have lowered := laid.lowered distinct (Nat.lt_succ_of_le fits)
  rw [← exact] at lowered
  exact Act.lowerBuffer_ok bound lowered

theorem LaidWhole.oversized (laid : LaidWhole model type value items) (distinct : model.Distinct)
    (large : 0xFFFFFFFF < (encoding items).length) (session : Session) :
    Act.lowerBuffer model type value session = .error (.oversized (encoding items).length) session := by
  have large : Act.largestBuffer < ((encoding items).length : Int) := by
    rw [Act.largestBuffer]
    omega
  simp only [Act.lowerBuffer,laid.size distinct]
  rw [seq_ok (Act.ofResult_ok _)]
  exact seq_error (Act.alloc_oversized large)

theorem LaidWhole.lifts (laid : LaidWhole model type value items) (session : Session) (bound : session.bound = some .this)
    (frees : session.library.failFree = false) (holds : session.Holds buffer (encoding items))
    (short : (encoding items).length < 0x80000000) :
    ∃ lifted after, Act.liftBuffer model type buffer session = .ok lifted after ∧ lifted.unified = value.unified := by
  have small : (encoding items).length < capacity 4 := by
    rw [capacity_four]
    omega
  obtain ⟨lifted,done,same⟩ := laid.reads small
  obtain ⟨after,run⟩ := Act.liftBuffer_ok bound frees (Act.scan_ok holds short done)
  exact ⟨lifted,after,run,same⟩

theorem Act.liftBuffer_long (session : Session) (holds : session.Holds buffer bytes) (low : 0x80000000 ≤ bytes.length)
    (high : bytes.length < 0xFFFFFFFF) : ∃ after, Act.liftBuffer model type buffer session = .error .negativeSize after := by
  obtain ⟨after,_,failed⟩ := Act.liftBuffer_error (Act.scan_long holds low high)
  exact ⟨after,failed⟩

theorem LaidWhole.roundTrips (laid : LaidWhole model type value items) (distinct : model.Distinct) (hygienic : model.isHygienic)
    (closed : type.isClosed model) (resolved : model.resolve type = .ok ()) (ready : Program.Ready program model)
    {literal : Literal} (built : literal.build model = .ok value) (plain : literal.isPlain model) :
    program.RoundTrips type literal value (encoding items) where
  size := ready.sizes hygienic closed resolved built plain (laid.size distinct)
  encode fits exact := by
    have lowered := laid.lowers distinct program.session.cleared ready.bound fits exact
    have sound : program.session.cleared.library.Sound := ready.sound
    have content := Session.content_holding sound (encoding items)
    rw [ready.encodes hygienic closed resolved built plain lowered,content]
  oversized large :=
    ready.encodes_error hygienic closed resolved built plain (laid.oversized distinct large program.session.cleared)
  decode short frees := by
    have fits : ((encoding items).length : Int) ≤ Act.largestBuffer := by
      rw [Act.largestBuffer]
      omega
    obtain ⟨lifted,after,done,same⟩ := laid.lifts (program.session.received (encoding items)) ready.bound frees
      (Session.holds_received ready.sound _) short
    exact ⟨lifted,ready.decodes hygienic closed resolved fits done,same⟩
  long low high := by
    have fits : ((encoding items).length : Int) ≤ Act.largestBuffer := by
      rw [Act.largestBuffer]
      omega
    obtain ⟨after,failed⟩ := Act.liftBuffer_long _ (Session.holds_received ready.sound _) low high
    exact (ready.decodes_error hygienic closed resolved fits failed).1

end

-- A value that fits its type crosses the boundary in a buffer of its own and comes back as
-- it was, unless no buffer can hold it: then none is made. No-numbers are all one. What is
-- made is not read back from two gibibytes on.
theorem codec_round_trip (read : Model.read text = .ok model) (hygienic : model.isHygienic)
    (laid : LaidWhole model type value items) :
    model.encodedSize type value = .ok (encoding items).length ∧
    (∀ session : Session, session.bound = some .this → session.library.Sound →
      ((encoding items).length ≤ 0xFFFFFFFF → session.library.allocDelta = 0 →
        Act.lowerBuffer model type value session =
          .ok (session.nextBuffer (encoding items).length) (session.holding (encoding items)) ∧
        (session.holding (encoding items)).Holds (session.nextBuffer (encoding items).length) (encoding items)) ∧
      (0xFFFFFFFF < (encoding items).length →
        Act.lowerBuffer model type value session = .error (.oversized (encoding items).length) session) ∧
      ∀ back, session.Holds back (encoding items) →
        ((encoding items).length < 0x80000000 → session.library.failFree = false →
          ∃ lifted after, Act.liftBuffer model type back session = .ok lifted after ∧ lifted.unified = value.unified) ∧
        (0x80000000 ≤ (encoding items).length → (encoding items).length < 0xFFFFFFFF →
          ∃ after, Act.liftBuffer model type back session = .error .negativeSize after)) ∧
    ∀ (program : Program) (literal : Literal), program.Ready model → type.isClosed model → model.resolve type = .ok () →
      literal.build model = .ok value → literal.isPlain model → program.RoundTrips type literal value (encoding items) := by
  obtain ⟨distinct,_⟩ := Model.read_meets read
  refine ⟨laid.size distinct,?_,?_⟩
  · intro session bound sound
    refine ⟨?_,fun large => laid.oversized distinct large session,?_⟩
    · intro fits exact
      exact ⟨laid.lowers distinct session bound fits exact,Session.holds_holding sound _⟩
    · intro back holds
      exact ⟨fun short frees => laid.lifts session bound frees holds short,Act.liftBuffer_long session holds⟩
  · intro program literal ready closed resolved built plain
    exact laid.roundTrips distinct hygienic closed resolved ready built plain

def sampleText : String :=
  "namespace geo; enum Shade \x7b dark, light \x7d record Node \x7b float? weight; Shade shade; Node?? next; \x7d" ++
  "fn turn(string label, Node node) -> Node?;"

def sampleFunction : Function :=
  ⟨"turn",[⟨"label",.ofPlain .string⟩,⟨"node",.recordOf "Node"⟩],some (.optionalOf (.recordOf "Node"))⟩

def sampleModel : Model :=
  ⟨"geo",[⟨"Shade",["dark","light"]⟩],
    [⟨"Node",[⟨"weight",.optionalOf (.ofPlain .float)⟩,⟨"shade",.enumOf "Shade"⟩,
      ⟨"next",.optionalOf (.optionalOf (.recordOf "Node"))⟩]⟩],[sampleFunction],[]⟩

theorem read_sample : Model.read sampleText = .ok sampleModel := by cbv

def sampleShade : Roster := ⟨"Shade",[("dark",1),("light",2)]⟩

def sampleRows : List Row := [
  ⟨⟨"weight",.optionalOf (.ofPlain .float)⟩,.float (Double.widen 0x3FC00000),[.presence true,.single (Double.widen 0x3FC00000)]⟩,
  ⟨⟨"shade",.enumOf "Shade"⟩,.member sampleShade "light" 2,[.word 4 2]⟩,
  ⟨⟨"next",.optionalOf (.optionalOf (.recordOf "Node"))⟩,.wrapped .null,[.presence true,.presence false]⟩]

theorem laid_sample : Laid sampleModel (.recordOf "Node") (.record "Node" (sampleRows.map Row.named))
    (sampleRows.flatMap Row.items) := by
  have found : sampleModel.record? "Node" = some ⟨"Node",sampleRows.map Row.field⟩ := rfl
  refine .record found rfl ?_
  simp only [sampleRows,List.forall_mem_cons]
  have known : sampleModel.enumeration? "Shade" = some ⟨"Shade",["dark","light"]⟩ := rfl
  refine ⟨.bare rfl (.float _ (Double.isSingle_widen _)),?_,.wrapped rfl .absent,by simp⟩
  exact .enumeration known "light" 2 (by decide) (by decide)

theorem hygienic_sample : sampleModel.isHygienic := by decide

theorem codec_round_trip_sample : ∃ lifted after,
    Act.lowerBuffer sampleModel (.recordOf "Node") (.record "Node" (sampleRows.map Row.named))
      (Session.start "" (some .this)) = .ok ⟨some 1,11⟩ ((Session.start "" (some .this)).holding (encoding (sampleRows.flatMap Row.items))) ∧
    Act.liftBuffer sampleModel (.recordOf "Node") ⟨some 1,11⟩
      ((Session.start "" (some .this)).received (encoding (sampleRows.flatMap Row.items))) = .ok lifted after ∧
    lifted.unified = (Value.record "Node" (sampleRows.map Row.named)).unified := by
  obtain ⟨_,sessions,_⟩ := codec_round_trip read_sample hygienic_sample (.record laid_sample)
  obtain ⟨fits,_,_⟩ := sessions (Session.start "" (some .this)) rfl Library.sound_empty
  obtain ⟨lowered,_⟩ := fits (by decide) rfl
  obtain ⟨_,_,back⟩ := sessions ((Session.start "" (some .this)).received (encoding (sampleRows.flatMap Row.items))) rfl
    (Library.sound_empty.make 11 _ 11)
  obtain ⟨lifted,after,done,same⟩ := (back _ (Session.holds_received Library.sound_empty _)).1 (by decide) rfl
  exact ⟨lifted,after,lowered,done,same⟩

-- Two gibibytes are too many for a reader, though not for a buffer.
theorem long_bytes_lost : ∃ buffer after last,
    Act.lowerBuffer sampleModel (.ofPlain .bytes) (.bytes (List.replicate 0x80000000 7)) (Session.start "" (some .this)) =
      .ok buffer after ∧ Act.liftBuffer sampleModel (.ofPlain .bytes) buffer after = .error .negativeSize last := by
  obtain ⟨distinct,_⟩ := Model.read_meets read_sample
  have laid : LaidWhole sampleModel (.ofPlain .bytes) (.bytes (List.replicate 0x80000000 7)) _ := .bytes _
  have length : (encoding [Item.whole (List.replicate 0x80000000 7)]).length = 0x80000000 := by
    rw [encoding_singleton,Item.bytes,List.length_replicate]
  have lowered := laid.lowers distinct (Session.start "" (some .this)) rfl (by omega) rfl
  have sound : (Session.start "" (some .this)).library.Sound := Library.sound_empty
  obtain ⟨last,failed⟩ := Act.liftBuffer_long _ (Session.holds_holding sound _) length.ge (by omega)
  exact ⟨_,_,last,lowered,failed⟩

-- A buffer that is made for a value of its type holds the layout of the value and nothing
-- else, whatever was done before. It is made as long as the component gives what is asked for.
theorem lowered_layout (read : Model.read text = .ok model) (whole : type.isBuffer) (typed : Typed model type value)
    (fits : (model.layoutWhole type value).length ≤ 0xFFFFFFFF) (session : Session) (sound : session.library.Sound) :
    model.encodedSize type value = .ok (model.layoutWhole type value).length ∧
    (∀ buffer after, Act.lowerBuffer model type value session = .ok buffer after →
      after.Holds buffer (model.layoutWhole type value)) ∧
    (session.bound = some .this → session.library.allocDelta = 0 →
      ∃ buffer after, Act.lowerBuffer model type value session = .ok buffer after) := by
  obtain ⟨distinct,_⟩ := Model.read_meets read
  have small : (model.layoutWhole type value).length < capacity 4 := Nat.lt_succ_of_le fits
  have size := typed.wholeSize distinct whole
  refine ⟨size,?_,?_⟩
  · intro buffer after done
    obtain ⟨content,run,rfl,rfl⟩ := Act.lowerBuffer_parts done
    have length : content.length = (model.layoutWhole type value).length :=
      Except.ok.inj ((Model.lowered_length run).1.symm.trans size)
    have lowered := typed.lowered distinct whole small (length ▸ Model.lowered_exact run)
    obtain rfl : content = model.layoutWhole type value := Except.ok.inj (run.symm.trans lowered)
    exact Session.holds_holding sound _
  · intro bound exact
    have lowered := typed.lowered distinct whole small (Library.reported_exact small)
    rw [← exact] at lowered
    exact ⟨_,_,Act.lowerBuffer_ok bound lowered⟩

def typedRows : List (Field × Value) := [
  (⟨"weight",.optionalOf (.ofPlain .float)⟩,.float ⟨0x3FB999999999999A⟩),
  (⟨"shade",.enumOf "Shade"⟩,.member sampleShade "light" 2),
  (⟨"next",.optionalOf (.optionalOf (.recordOf "Node"))⟩,.wrapped .null)]

def typedNode : Value := .record "Node" (typedRows.map (fun row => (row.1.name,row.2)))

theorem typed_node : Typed sampleModel (.recordOf "Node") typedNode := by
  have found : sampleModel.record? "Node" = some ⟨"Node",typedRows.map Prod.fst⟩ := rfl
  have known : sampleModel.enumeration? "Shade" = some ⟨"Shade",["dark","light"]⟩ := rfl
  refine .record found rfl ?_
  simp only [typedRows,List.forall_mem_cons]
  refine ⟨.bare rfl (.float _ (by decide)),?_,.wrapped rfl .absent,by simp⟩
  exact .enumeration known "light" 2 (by decide) (by decide)

theorem layout_node : sampleModel.layoutWhole (.recordOf "Node") typedNode = [1,0x3D,0xCC,0xCC,0xCD,0,0,0,2,1,0] := by
  have found : sampleModel.record? "Node" = some ⟨"Node",typedRows.map Prod.fst⟩ := rfl
  have whole : sampleModel.layoutWhole (.recordOf "Node") typedNode = typedRows.flatMap sampleModel.layoutRow :=
    Model.layout_record found rfl
  rw [whole]
  simp only [typedRows,List.flatMap_cons,List.flatMap_nil,Model.layoutRow,TypeRef.optionalOf,TypeRef.ofPlain,TypeRef.enumOf,
    TypeRef.recordOf,Model.layout]
  decide

theorem lowered_layout_sample : ∃ buffer after,
    Act.lowerBuffer sampleModel (.recordOf "Node") typedNode (Session.start "" (some .this)) = .ok buffer after ∧
    after.library.content buffer = [1,0x3D,0xCC,0xCC,0xCD,0,0,0,2,1,0] := by
  have small : (sampleModel.layoutWhole (.recordOf "Node") typedNode).length ≤ 0xFFFFFFFF := by
    rw [layout_node]
    decide
  obtain ⟨_,holds,made⟩ := lowered_layout read_sample rfl typed_node small (Session.start "" (some .this)) Library.sound_empty
  obtain ⟨buffer,after,done⟩ := made rfl rfl
  refine ⟨buffer,after,done,?_⟩
  rw [← layout_node]
  exact (holds buffer after done).content

section
variable {model : Model}

-- Bytes that are read into a value are its encoding, up to flags and no-numbers. All others
-- are at fault themselves.
theorem decodeWhole_canonical {config : Config} (read : Model.read text = .ok model)
    (generated : (model.generate config).result = .ok source) (grounded : model.Grounded) (whole : type.isBuffer)
    (closed : type.isClosed model) (bytes : List UInt8) :
    (∃ value items, model.decodeWhole type bytes = .ok value [] ∧ LaidWhole model type value items ∧ Variant items bytes) ∨
    (∃ fault rest, model.decodeWhole type bytes = .error fault rest ∧ fault.IsForeign) := by
  obtain ⟨_,declared⟩ := Model.read_meets read
  have fields := Model.closed_fields (Model.generate_closed generated declared)
  have meets := decodeWhole_meets grounded fields type whole closed bytes
  cases run : model.decodeWhole type bytes with
  | error fault rest =>
    rw [run] at meets
    exact .inr ⟨fault,rest,rfl,meets⟩
  | ok value rest =>
    rw [run] at meets
    obtain ⟨rfl,items,laid,variant⟩ := meets
    exact .inl ⟨value,items,rfl,laid,variant⟩

end

def Program.Canonical (program : Program) (type : TypeRef) (bytes : List UInt8) : Prop :=
  (∃ value items, (program.advance (.decode type (.fresh bytes none))).1.result = .ok (.value value) ∧
    LaidWhole program.model type value items ∧ Variant items bytes ∧
    ∀ other : Program, other.Ready program.model → other.session.library.allocDelta = 0 →
      (other.advance (.encode type (.value value))).1.result = .ok (.content (encoding items))) ∨
  (∃ fault, (program.advance (.decode type (.fresh bytes none))).1.result = .error fault ∧ fault.IsForeign)

-- Whatever bytes a buffer holds, it is lifted to a value that fits its type and that is
-- lowered into the same bytes again, up to flags and no-numbers, or the bytes are at
-- fault. There is no third way as long as no record contains itself outright, except that
-- two gibibytes and more are not read at all.
theorem lift_canonical {config : Config} (read : Model.read text = .ok model)
    (generated : (model.generate config).result = .ok source) (hygienic : model.isHygienic) (grounded : model.Grounded)
    (type : TypeRef) (whole : type.isBuffer) (closed : type.isClosed model) (bytes : List UInt8) :
    (∀ (buffer : Buffer) (session : Session), session.Holds buffer bytes →
      (bytes.length < 0x80000000 → session.bound = some .this → session.library.failFree = false →
        (∃ value after items, Act.liftBuffer model type buffer session = .ok value after ∧
          LaidWhole model type value items ∧ Variant items bytes ∧
          ∀ ready : Session, ready.bound = some .this → ready.library.Sound → ready.library.allocDelta = 0 →
            ∃ made later, Act.lowerBuffer model type value ready = .ok made later ∧ later.Holds made (encoding items)) ∨
        (∃ fault after, Act.liftBuffer model type buffer session = .error fault after ∧ fault.IsForeign)) ∧
      (0x80000000 ≤ bytes.length → bytes.length < 0xFFFFFFFF →
        ∃ after, Act.liftBuffer model type buffer session = .error .negativeSize after)) ∧
    ∀ program : Program, program.Ready model → model.resolve type = .ok () →
      (bytes.length < 0x80000000 → program.session.library.failFree = false → program.Canonical type bytes) ∧
      (0x80000000 ≤ bytes.length → bytes.length < 0xFFFFFFFF →
        (program.advance (.decode type (.fresh bytes none))).1.result = .error .negativeSize) := by
  obtain ⟨distinct,_⟩ := Model.read_meets read
  have meets := decodeWhole_canonical read generated grounded whole closed bytes
  refine ⟨?_,?_⟩
  · intro buffer session holds
    refine ⟨?_,Act.liftBuffer_long session holds⟩
    intro short bound frees
    rcases meets with ⟨value,items,run,laid,variant⟩ | ⟨fault,rest,run,foreign⟩
    · obtain ⟨after,done⟩ := Act.liftBuffer_ok bound frees (Act.scan_ok holds short run)
      have fits : (encoding items).length ≤ 0xFFFFFFFF := by
        rw [← variant.length]
        omega
      refine .inl ⟨value,after,items,done,laid,variant,?_⟩
      intro ready bound sound exact
      exact ⟨_,_,laid.lowers distinct ready bound fits exact,Session.holds_holding sound _⟩
    · obtain ⟨after,_,failed⟩ := Act.liftBuffer_error (Act.scan_error holds short run)
      exact .inr ⟨fault,after,failed,foreign⟩
  · intro program ready resolved
    have holds := Session.holds_received ready.sound bytes
    have bound : (program.session.received bytes).bound = some .this := ready.bound
    have large (high : bytes.length < 0xFFFFFFFF) : (bytes.length : Int) ≤ Act.largestBuffer := by
      rw [Act.largestBuffer]
      omega
    refine ⟨?_,?_⟩
    · intro short frees
      have small := large (by omega)
      rcases meets with ⟨value,items,run,laid,variant⟩ | ⟨fault,rest,run,foreign⟩
      · obtain ⟨after,done⟩ := Act.liftBuffer_ok bound frees (Act.scan_ok holds short run)
        have fits : (encoding items).length ≤ 0xFFFFFFFF := by
          rw [← variant.length]
          omega
        refine .inl ⟨value,items,ready.decodes hygienic closed resolved small done,ready.model ▸ laid,variant,?_⟩
        intro other ready' exact
        rw [ready.model] at ready'
        exact (laid.roundTrips distinct hygienic closed resolved ready' rfl rfl).encode fits exact
      · obtain ⟨after,_,failed⟩ := Act.liftBuffer_error (Act.scan_error holds short run)
        exact .inr ⟨fault,(ready.decodes_error hygienic closed resolved small failed).1,foreign⟩
    · intro low high
      obtain ⟨after,failed⟩ := Act.liftBuffer_long _ holds low high
      exact (ready.decodes_error hygienic closed resolved (large high) failed).1

theorem grounded_sample : sampleModel.Grounded := by
  have flat (outer inner : String) : ¬ sampleModel.Nests outer inner := by
    rintro ⟨record,found,field,member,aside,same⟩
    have own : record = ⟨"Node",sampleRows.map Row.field⟩ := 
      List.mem_singleton.mp (Model.record?_mem found)
    subst own
    simp only [sampleRows,List.map_cons,List.map_nil,List.mem_cons,List.not_mem_nil,or_false] at member
    rcases member with rfl | rfl | rfl <;> cases same
  intro name loop
  obtain ⟨_,first,_⟩ := Relation.TransGen.head'_iff.mp loop
  exact flat _ _ first

theorem generated_sample : ∃ source, (sampleModel.generate (Config.defaults "geo")).result = .ok source := by
  have made : (sampleModel.generate (Config.defaults "geo")).result.isOk := by decide
  cases run : (sampleModel.generate (Config.defaults "geo")).result with
  | ok source => exact ⟨source,rfl⟩
  | error failure => rw [run] at made; cases made

theorem lift_canonical_sample : ∃ value after items,
    Act.liftBuffer sampleModel (.optionalOf (.ofPlain .boolean)) ⟨some 1,2⟩ ((Session.start "" (some .this)).received [1,7]) =
      .ok value after ∧ LaidWhole sampleModel (.optionalOf (.ofPlain .boolean)) value items ∧ Variant items [1,7] := by
  obtain ⟨source,generated⟩ := generated_sample
  obtain ⟨sessions,_⟩ := lift_canonical read_sample generated hygienic_sample grounded_sample
    (.optionalOf (.ofPlain .boolean)) rfl rfl [1,7]
  have sound : (Session.start "" (some .this)).library.Sound := Library.sound_empty
  have done := (sessions ⟨some 1,2⟩ _ (Session.holds_received sound [1,7])).1 (by decide) rfl rfl
  rcases done with ⟨value,after,items,run,laid,variant,_⟩ | ⟨fault,after,failed,_⟩
  · exact ⟨value,after,items,run,laid,variant⟩
  · cases failed

theorem long_buffer_refused : ∃ fault after, Act.liftBuffer sampleModel (.ofPlain .bytes) ⟨some 1,0x80000000⟩
    ((Session.start "" (some .this)).received (List.replicate 0x80000000 7)) = .error fault after ∧ ¬ fault.IsForeign := by
  have length : (List.replicate 0x80000000 (7 : UInt8)).length = 0x80000000 := List.length_replicate
  have sound : (Session.start "" (some .this)).library.Sound := Library.sound_empty
  have holds := Session.holds_received sound (List.replicate 0x80000000 7)
  rw [length] at holds
  obtain ⟨after,failed⟩ := Act.liftBuffer_long _ holds length.ge (by omega)
  exact ⟨_,after,failed,by simp [Fault.IsForeign,Fault.kind]⟩

end NativeBinding
