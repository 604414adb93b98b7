import NativeBinding.Proofs.Codec.Short
import NativeBinding.Proofs.Session.Transfer

namespace NativeBinding
open Wire

-- The component has been asked once more to release a buffer, and nothing else. A release
-- that fails leaves the buffer as it was.
structure Session.Released (session : Session) (buffer : Buffer) (after : Session) : Prop where
  events : after.events = session.events ++ [Act.shown session.library buffer]
  library : after.library = if session.library.failFree then session.library else session.library.drop buffer

-- A returned buffer with these bytes in it leads to no value but to this fault, and is
-- released once. So it does where a program is given one.
structure Model.Rejects (model : Model) (type : TypeRef) (bytes : List UInt8) (fault : Fault) : Prop where
  lift : ∀ (buffer : Buffer) (session : Session), session.bound = some .this → session.Holds buffer bytes →
    ∃ after, Act.liftBuffer model type buffer session = .error fault after ∧ session.Released buffer after
  step : ∀ program : Program, program.Ready model → model.resolve type = .ok () →
    (program.advance (.decode type (.fresh bytes none))).1.result = .error fault ∧
      (program.advance (.decode type (.fresh bytes none))).1.events = [.free (some (program.session.library.made + 1))]

section
variable {session after : Session} {buffer : Buffer} {model : Model}

theorem Act.freeQuietly_released (bound : session.bound = some .this) (done : freeQuietly buffer session = .ok () after) :
    session.Released buffer after := by
  cases fails : session.library.failFree with
  | false =>
    rw [freeQuietly,free_bound buffer bound,release_ok buffer fails] at done
    cases done
    exact ⟨rfl,by rw [fails]; rfl⟩
  | true =>
    rw [freeQuietly,free_bound buffer bound,release_error buffer fails] at done
    cases done
    exact ⟨rfl,by rw [fails]; rfl⟩

theorem Session.shown_received (session : Session) (bytes : List UInt8) :
    Act.shown (session.received bytes).library (session.nextBuffer bytes.length) = .free (some (session.library.made + 1)) := by
  have live : (session.received bytes).library.isLive (session.nextBuffer bytes.length) := by
    refine Library.isLive_iff.mpr ⟨session.library.made + 1,?_,rfl⟩
    rw [received,Library.ids_make]
    exact List.mem_append_right _ (List.mem_singleton_self _)
  rw [Act.shown,if_pos live]
  rfl

theorem Model.rejects (hygienic : model.isHygienic) (closed : type.isClosed model)
    (fits : (bytes.length : Int) ≤ Act.largestBuffer)
    (scanned : ∀ (buffer : Buffer) (session : Session), session.Holds buffer bytes →
      Act.scan buffer (model.decodeWhole type) session = .error fault session) : model.Rejects type bytes fault where
  lift buffer session bound holds := by
    obtain ⟨after,released,failed⟩ := Act.liftBuffer_error (scanned buffer session holds)
    exact ⟨after,failed,Act.freeQuietly_released bound released⟩
  step program ready resolved := by
    have bound : (program.session.received bytes).bound = some .this := ready.bound
    obtain ⟨after,released,failed⟩ := Act.liftBuffer_error (scanned _ _ (Session.holds_received ready.sound bytes))
    obtain ⟨result,events⟩ := ready.decodes_error hygienic closed resolved fits failed
    refine ⟨result,?_⟩
    rw [events,(Act.freeQuietly_released bound released).events,Session.shown_received]
    rfl

theorem Model.rejects_short (hygienic : model.isHygienic) (closed : type.isClosed model) (short : bytes.length < 0x80000000)
    (failed : ∃ left, model.decodeWhole type bytes = .error fault left) : model.Rejects type bytes fault := by
  obtain ⟨left,failed⟩ := failed
  refine Model.rejects hygienic closed ?_ (fun buffer session holds => Act.scan_error holds short failed)
  rw [Act.largestBuffer]
  omega

theorem Model.rejects_long (hygienic : model.isHygienic) (closed : type.isClosed model) (low : 0x80000000 ≤ bytes.length)
    (high : bytes.length < 0xFFFFFFFF) : model.Rejects type bytes .negativeSize := by
  refine Model.rejects hygienic closed ?_ (fun buffer session holds => Act.scan_long holds low high)
  rw [Act.largestBuffer]
  omega

theorem Typed.made (typed : Typed model type value) (distinct : model.Distinct) (whole : type.isBuffer) {ready filled : Session}
    (sound : ready.library.Sound) (made : Act.lowerBuffer model type value ready = .ok buffer filled)
    (holds : filled.Holds buffer encoded) :
    encoded = model.layoutWhole type value ∧ encoded.length < capacity 4 := by
  obtain ⟨content,run,rfl,rfl⟩ := Act.lowerBuffer_parts made
  have same : encoded = content := holds.content.symm.trans (Session.content_holding sound content)
  obtain ⟨sized,fits⟩ := Model.lowered_length run
  have length : content.length = (model.layoutWhole type value).length :=
    Except.ok.inj (sized.symm.trans (typed.wholeSize distinct whole))
  have small : content.length < capacity 4 := by
    rw [Act.largestBuffer] at fits
    rw [capacity_four]
    omega
  have lowered := typed.lowered distinct whole (length ▸ small) (length ▸ Model.lowered_exact run)
  rw [same]
  exact ⟨Except.ok.inj (run.symm.trans lowered),small⟩

end

-- Of what a value is laid out in, no byte can be lost and none can be added: every cut and
-- every extension is noticed when it comes back, and never taken for another fault, unless
-- there are so many bytes that none is read.
theorem spoiled_rejected (read : Model.read text = .ok model) (hygienic : model.isHygienic) (whole : type.isBuffer)
    (other : ∀ label aside, type ≠ .plain .bytes label aside) (closed : type.isClosed model) (typed : Typed model type value)
    {ready filled : Session} (sound : ready.library.Sound)
    (made : Act.lowerBuffer model type value ready = .ok buffer filled) (holds : filled.Holds buffer encoded) :
    (∀ kept lost, encoded = kept ++ lost → lost ≠ [] → kept.length < 0x80000000 →
      model.Rejects type kept (.disagreement .endedEarly)) ∧
    (∀ extra, extra ≠ [] → (encoded ++ extra).length < 0x80000000 →
      model.Rejects type (encoded ++ extra) (.disagreement (.junk extra.length))) ∧
    (∀ bytes, 0x80000000 ≤ bytes.length → bytes.length < 0xFFFFFFFF → model.Rejects type bytes .negativeSize) := by
  obtain ⟨distinct,_⟩ := Model.read_meets read
  obtain ⟨same,small⟩ := typed.made distinct whole sound made holds
  obtain ⟨exact,items,laid,layout⟩ := typed.laid distinct
  have inside : model.layoutWhole type value = model.layout type value := by
    cases type with
    | plain which label aside =>
      cases which with
      | bytes => exact absurd rfl (other label aside)
      | _ => cases whole
    | named | optional => rfl
  obtain rfl : encoded = encoding items := same.trans (inside.trans layout)
  refine ⟨?_,?_,?_⟩
  · intro kept lost cut some short
    exact Model.rejects_short hygienic closed short (laid.decodes_cut other small some cut)
  · intro extra some short
    exact Model.rejects_short hygienic closed short (laid.decodes_extended other small some)
  · intro bytes low high
    exact Model.rejects_long hygienic closed low high

theorem spoiled_rejected_node : ∃ cut extended,
    Act.liftBuffer sampleModel (.recordOf "Node") ⟨some 1,4⟩ ((Session.start "" (some .this)).received [1,0x3D,0xCC,0xCC]) =
      .error (.disagreement .endedEarly) cut ∧ cut.events = [.free (some 1)] ∧
    Act.liftBuffer sampleModel (.recordOf "Node") ⟨some 1,12⟩
      ((Session.start "" (some .this)).received [1,0x3D,0xCC,0xCC,0xCD,0,0,0,2,1,0,7]) =
      .error (.disagreement (.junk 1)) extended ∧ extended.events = [.free (some 1)] := by
  have other : ∀ label aside, TypeRef.recordOf "Node" ≠ .plain .bytes label aside := nofun
  obtain ⟨distinct,_⟩ := Model.read_meets read_sample
  have small : (sampleModel.layoutWhole (.recordOf "Node") typedNode).length < capacity 4 := by
    rw [layout_node]
    decide
  have lowered := typed_node.lowered distinct rfl small (Library.reported_exact small)
  rw [layout_node] at lowered
  have made : Act.lowerBuffer sampleModel (.recordOf "Node") typedNode (Session.start "" (some .this)) = .ok _ _ :=
    Act.lowerBuffer_ok rfl lowered
  have sound : (Session.start "" (some .this)).library.Sound := Library.sound_empty
  have holds := Session.holds_holding sound [1,0x3D,0xCC,0xCC,0xCD,0,0,0,2,1,0]
  obtain ⟨cuts,extensions,_⟩ := spoiled_rejected read_sample hygienic_sample rfl other rfl typed_node sound made holds
  obtain ⟨cut,failed,released⟩ := (cuts [1,0x3D,0xCC,0xCC] [0xCD,0,0,0,2,1,0] rfl nofun (by decide)).lift _ _ rfl
    (Session.holds_received sound _)
  obtain ⟨extended,failed',released'⟩ := (extensions [7] nofun (by decide)).lift _ _ rfl (Session.holds_received sound _)
  exact ⟨cut,extended,failed,released.events,failed',released'.events⟩

-- A buffer of so many bytes that its length comes out as minus one ends at its first zero,
-- and what follows it is never seen.
theorem extension_overlooked : ∃ extra after, extra ≠ [] ∧
    sampleModel.lowered 0 (.optionalOf (.ofPlain .boolean)) (.bool true) = .ok [1,1] ∧
    Act.liftBuffer sampleModel (.optionalOf (.ofPlain .boolean)) ⟨some 1,0xFFFFFFFF⟩
      ((Session.start "" (some .this)).received ([1,1] ++ extra)) = .ok (.bool true) after := by
  obtain ⟨extra,many⟩ : ∃ extra : List UInt8, extra.length = 0xFFFFFFFC := ⟨List.replicate _ 0,List.length_replicate⟩
  have length : ([1,1] ++ 0 :: extra).length = 0xFFFFFFFF := by simp [many]
  have sound : (Session.start "" (some .this)).library.Sound := Library.sound_empty
  have holds := Session.holds_received sound ([1,1] ++ 0 :: extra)
  have scanned := @Act.scan_holds _ _ _ _ (sampleModel.decodeWhole (.optionalOf (.ofPlain .boolean))) holds
  have seen : Read.unread ([1,1] ++ 0 :: extra) ([1,1] ++ 0 :: extra).length = .ok [1,1] := by
    rw [length]
    exact Read.unread_ones
  rw [seen,seq_ok (Act.ofResult_ok _)] at scanned
  obtain ⟨after,done⟩ := Act.liftBuffer_ok rfl rfl scanned
  rw [length] at done
  exact ⟨0 :: extra,after,List.cons_ne_nil _ _,rfl,done⟩

end NativeBinding
