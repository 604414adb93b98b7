import NativeBinding.Emitted.ForeignType
import NativeBinding.Emitted.Hygiene
import NativeBinding.Proofs.Codec.Decode

namespace NativeBinding
open Wire

-- Bytes that a value of a type is read from: those of its encoding, up to flags and
-- no-numbers.
def Model.ReadAs (model : Model) (type : TypeRef) (value : Value) (taken : List UInt8) : Prop :=
  ∃ items, Laid model type value items ∧ Variant items taken

def Model.ClosedFields (model : Model) : Prop :=
  ∀ record ∈ model.records, ∀ field ∈ record.fields, field.type.isClosed model

theorem Model.closed_fields {model : Model} (closed : ∀ type ∈ model.typeRefs, type.isClosed model) : model.ClosedFields :=
  fun record member _ part =>
    closed _ (List.mem_append_left _ (List.mem_flatMap.mpr ⟨record,member,List.mem_map_of_mem part⟩))

section
variable {model : Model} {limit : Nat}

theorem Model.readAs_own {item : Item} (laid : Laid model type value [item]) : model.ReadAs type value item.bytes :=
  ⟨[item],laid,.single (.own item)⟩

theorem within_truth_read : Read.Within limit (do return .bool (← Read.truth))
    (model.ReadAs (.plain .boolean label aside)) := by
  refine Read.within_truth.map ?_
  rintro value taken ⟨byte,rfl,rfl⟩
  by_cases zero : byte = 0
  · subst zero
    exact Model.readAs_own (.boolean false)
  · have set : (byte != 0) = true := by simpa using zero
    rw [set]
    exact ⟨_,.boolean true,.single (.flag byte zero)⟩

theorem within_single_read : Read.Within limit (do return .float (← Read.single))
    (model.ReadAs (.plain .float label aside)) := by
  refine Read.within_single.map ?_
  rintro value taken ⟨pattern,small,rfl,rfl⟩
  have laid : Laid model (.plain .float label aside) (.float (Double.widen pattern)) [.single (Double.widen pattern)] :=
    .float _ (Double.isSingle_widen pattern)
  cases other : FloatFormat.single.isNan pattern with
  | false =>
    have narrow := Double.narrow_widen small other
    have own := Model.readAs_own laid
    rwa [Item.bytes,narrow] at own
  | true =>
    exact ⟨_,laid,.single (.nan _ pattern ((Double.isNan_widen pattern).trans other) small other)⟩

theorem within_double_read : Read.Within limit (do return .float (← Read.double))
    (model.ReadAs (.plain .double label aside)) :=
  Read.within_double.map (fun value _ same => same ▸ Model.readAs_own (.double value))

theorem within_word_read {type : TypeRef} (width : Nat)
    (laid : ∀ number < capacity width, Laid model type (.int (number : Nat)) [.word width number]) :
    Read.Within limit (do return .int (← Read.word width)) (model.ReadAs type) := by
  refine (Read.within_word width).map ?_
  rintro number _ ⟨rfl,small⟩
  exact Model.readAs_own (laid number small)

theorem within_text_read : Read.Within limit (do return .text (← Read.text))
    (model.ReadAs (.plain .string label aside)) :=
  Read.within_text.map (fun text _ same => same.1 ▸ Model.readAs_own (.string text))

theorem within_bytes_read : Read.Within limit (do return .bytes (← Read.bytes))
    (model.ReadAs (.plain .bytes label aside)) :=
  Read.within_bytes.map (fun content _ same => same.1 ▸ Model.readAs_own (.bytes content))

theorem within_ordinal_read (found : model.enumeration? name = some enumeration) :
    Read.Within limit (do
      let number ← Read.i32
      Read.ofResult (model.fromOrdinal name (.int number))) (model.ReadAs (.named .enumeration name aside)) := by
  refine Read.within_i32.seq ?_
  rintro number _ _ ⟨rfl,small⟩
  simp only [Model.fromOrdinal,found,Value.ordinalKey?,Value.toInt?,Option.bind_some]
  cases known : enumeration.roster.at? number with
  | none => exact Read.within_throw (.inl rfl)
  | some value =>
    obtain ⟨label,ordinal,member,rfl,rfl⟩ := Enumeration.at?_parts known
    refine Read.within_pure ?_
    rw [List.append_nil,signedWord_small (by omega)]
    exact Model.readAs_own (.enumeration found label ordinal member (by omega))

theorem within_fields {read : TypeRef → Read Value} (fields : List Field)
    (each : ∀ field ∈ fields, ∀ less ≤ limit, Read.Within less (read field.type) (model.ReadAs field.type)) :
    Read.Within limit (readFields read fields) (fun named taken => ∃ rows : List Row, fields = rows.map Row.field ∧
      named = rows.map Row.named ∧ (∀ row ∈ rows, Laid model row.field.type row.value row.items) ∧
      Variant (rows.flatMap Row.items) taken) := by
  induction fields generalizing limit with
  | nil => exact Read.within_pure ⟨[],rfl,rfl,by simp,.nil⟩
  | cons field rest ih =>
    refine (each field List.mem_cons_self limit (Nat.le_refl _)).seq ?_
    rintro value taken _ ⟨items,laid,own⟩
    have others := ih (fun f member less below => each f (List.mem_cons_of_mem _ member) less
      (below.trans (Nat.sub_le limit taken.length)))
    refine others.map ?_
    rintro _ more ⟨rows,rfl,rfl,laids,variant⟩
    exact ⟨⟨field,value,items⟩ :: rows,rfl,rfl,List.forall_mem_cons.mpr ⟨laid,laids⟩,own.append variant⟩

-- Reading by type, given how records met inside are read. A flag has to be read before
-- a record may be met again, which makes the bytes left fewer.
theorem within_type {nested : String → Read Value} {depth : Nat}
    (records : ∀ name aside less, (model.record? name).isSome → less * (model.records.length + 1) + model.rank name ≤ depth →
      Read.Within less (nested name) (model.ReadAs (.named .record name aside)))
    (type : TypeRef) (closed : type.isClosed model)
    (deep : limit * (model.records.length + 1) + model.typeRank type ≤ depth) :
    Read.Within limit (type.readBy model.fromOrdinal nested) (model.ReadAs type) := by
  induction type generalizing limit with
  | plain which label aside =>
    cases which with
    | boolean => exact within_truth_read
    | u32 => exact within_word_read 4 (fun number small => .u32 number small)
    | u64 => exact within_word_read 8 (fun number small => .u64 number small)
    | float => exact within_single_read
    | double => exact within_double_read
    | string => exact within_text_read
    | bytes => exact within_bytes_read
  | named which name aside =>
    cases which with
    | enumeration =>
      obtain ⟨enumeration,found⟩ := Option.isSome_iff_exists.mp closed
      exact within_ordinal_read found
    | record => exact records name aside limit closed deep
    | object => simp [TypeRef.isClosed] at closed
  | optional below label ih =>
    refine Read.within_presence.seq ?_
    rintro present _ within rfl
    cases present with
    | false => exact Read.within_pure ⟨_,.absent,.single (.own (.presence false))⟩
    | true =>
      refine (ih closed (Model.deep_behind deep within below)).map ?_
      rintro value taken ⟨items,laid,variant⟩
      have items' := Variant.cons (.own (.presence true)) variant
      cases flat : below.isOptional with
      | false => exact ⟨_,.bare flat laid,items'⟩
      | true => exact ⟨_,.wrapped flat laid,items'⟩

section
variable (grounded : model.Grounded) (closed : model.ClosedFields)
include grounded closed

-- The induction is on the count; the bytes left and the records that may still be met
-- before the next flag are what keeps it from running out.
theorem within_record (depth : Nat) (name : String) (aside : Option TypeRef) (limit : Nat)
    (known : (model.record? name).isSome) (deep : limit * (model.records.length + 1) + model.rank name ≤ depth) :
    Read.Within limit (model.recordRead depth name) (model.ReadAs (.named .record name aside)) := by
  obtain ⟨record,found⟩ := Option.isSome_iff_exists.mp known
  induction depth generalizing name aside limit record with
  | zero =>
    have positive := Model.rank_pos found
    omega
  | succ depth ih =>
    simp only [Model.recordRead,found]
    have each : ∀ field ∈ record.fields, ∀ less ≤ limit, Read.Within less
        (field.type.readBy model.fromOrdinal (model.recordRead depth)) (model.ReadAs field.type) := by
      intro field member less below
      have deep' := Model.deep_inside found member (grounded name) deep below
      refine within_type ?_ field.type (closed record (Model.record?_mem found) field member) deep'
      intro name aside less known deep
      obtain ⟨record,found⟩ := Option.isSome_iff_exists.mp known
      exact ih name aside less known deep record found
    refine (within_fields record.fields each).map ?_
    rintro _ taken ⟨rows,same,rfl,laids,variant⟩
    have laid : Laid model (.named .record name aside) _ _ := .record found same laids
    rw [Model.record?_name found] at laid
    exact ⟨_,laid,variant⟩

theorem decodeWhole_inside (type : TypeRef) (other : ∀ label aside, type ≠ .plain .bytes label aside)
    (known : type.isClosed model) (bytes : List UInt8) :
    match model.decodeWhole type bytes with
    | .ok value rest => rest = [] ∧ model.ReadAs type value bytes
    | .error fault _ => fault.IsForeign := by
  have deep := model.deep_start type (Nat.le_refl bytes.length)
  have records (name : String) (aside : Option TypeRef) (less : Nat) (known : (model.record? name).isSome)
      (deep : less * (model.records.length + 1) + model.rank name ≤ model.readDepth bytes.length) :=
    within_record grounded closed _ name aside less known deep
  have start := within_type records type known deep bytes (Nat.le_refl _)
  rw [← decode_inside type other] at start
  cases run : model.decode type bytes with
  | error fault left =>
    rw [run] at start
    rw [Model.decodeWhole,seq_error run]
    exact start
  | ok value rest =>
    rw [run] at start
    obtain ⟨taken,rfl,met⟩ := start
    cases rest with
    | nil =>
      rw [decodeWhole_done run]
      exact ⟨rfl,by rwa [List.append_nil]⟩
    | cons byte rest =>
      rw [Model.decodeWhole,seq_ok run]
      exact .inl rfl

theorem decodeWhole_meets (type : TypeRef) (whole : type.isBuffer) (known : type.isClosed model) (bytes : List UInt8) :
    match model.decodeWhole type bytes with
    | .ok value rest => rest = [] ∧ ∃ items, LaidWhole model type value items ∧ Variant items bytes
    | .error fault _ => fault.IsForeign := by
  cases type with
  | plain which label aside =>
    cases which with
    | bytes =>
      rw [decodeWhole_done rfl]
      exact ⟨rfl,_,.bytes bytes,.single (.own (.whole bytes))⟩
    | _ => cases whole
  | named which name aside =>
    cases which with
    | record =>
      have done := decodeWhole_inside grounded closed (.named .record name aside) nofun known bytes
      split at done
      · obtain ⟨rfl,items,laid,variant⟩ := done
        exact ⟨rfl,items,.record laid,variant⟩
      · exact done
    | _ => cases whole
  | optional below label =>
    have done := decodeWhole_inside grounded closed (.optional below label) nofun known bytes
    split at done
    · obtain ⟨rfl,items,laid,variant⟩ := done
      exact ⟨rfl,items,.optional laid,variant⟩
    · exact done

end
end
end NativeBinding
