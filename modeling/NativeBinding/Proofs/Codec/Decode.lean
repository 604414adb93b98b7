import NativeBinding.Codec.Decode
import NativeBinding.Proofs.Codec.Encode
import NativeBinding.Proofs.Wire.Take

namespace NativeBinding
open Wire

namespace Enumeration

theorem at?_member {enumeration : Enumeration} (member : (label,ordinal) ∈ enumeration.roster.labels) :
    enumeration.roster.at? ordinal = some (.member enumeration.roster label ordinal) := by
  simp only [roster,List.mk_mem_zipIdx_iff_le_and_getElem?_sub] at member
  cases found : enumeration.roster.labels.find? (fun row => (row.2 : Int) == ordinal) with
  | none =>
    have other := List.find?_eq_none.mp found (label,ordinal)
      (by simpa only [roster,List.mk_mem_zipIdx_iff_le_and_getElem?_sub] using member)
    simp at other
  | some row =>
    obtain ⟨label',ordinal'⟩ := row
    have same : ordinal' = ordinal := by simpa using List.find?_some found
    subst same
    have present := List.mem_of_find?_eq_some found
    simp only [roster,List.mk_mem_zipIdx_iff_le_and_getElem?_sub] at present
    have equal : label' = label := Option.some.inj (present.2.symm.trans member.2)
    simp only [Roster.at?,found,equal,Option.map_some]

theorem at?_parts {enumeration : Enumeration} (found : enumeration.roster.at? number = some value) :
    ∃ label ordinal, (label,ordinal) ∈ enumeration.roster.labels ∧ number = (ordinal : Int) ∧
      value = .member enumeration.roster label ordinal := by
  simp only [Roster.at?] at found
  obtain ⟨row,present,rfl⟩ := Option.map_eq_some_iff.mp found
  exact ⟨row.1,row.2,List.mem_of_find?_eq_some present,(by simpa using List.find?_some present : (row.2 : Int) = number).symm,rfl⟩

end Enumeration

theorem Value.unifiedOf_eq (rows : List (String × Value)) :
    unifiedOf rows = rows.map (fun row => (row.1,row.2.unified)) := by
  induction rows with
  | nil => rfl
  | cons row rest ih =>
    obtain ⟨name,value⟩ := row
    simp only [unifiedOf,unifiedOfRow,ih,List.map_cons]

section
variable {model : Model}

theorem fromOrdinal_member (found : model.enumeration? name = some enumeration)
    (member : (label,ordinal) ∈ enumeration.roster.labels) :
    model.fromOrdinal name (.int ordinal) = .ok (.member enumeration.roster label ordinal) := by
  have known := Enumeration.at?_member member
  simp only [Model.fromOrdinal,found,Value.ordinalKey?,Value.toInt?,Option.bind_some,known]

theorem takes_fields {read : TypeRef → Read Value} (rows : List Row)
    (each : ∀ row ∈ rows, ∃ value, Read.Takes (read row.field.type) (encoding row.items) value ∧
      value.unified = row.value.unified) :
    ∃ named, Read.Takes (readFields read (rows.map Row.field)) (encoding (rows.flatMap Row.items)) named ∧
      Value.unifiedOf named = Value.unifiedOf (rows.map Row.named) := by
  induction rows with
  | nil => exact ⟨[],Read.takes_pure [],rfl⟩
  | cons row rest ih =>
    obtain ⟨value,one,same⟩ := each row List.mem_cons_self
    obtain ⟨named,others,equal⟩ := ih (fun r m => each r (List.mem_cons_of_mem _ m))
    refine ⟨(row.field.name,value) :: named,?_,?_⟩
    · rw [List.map_cons,List.flatMap_cons,encoding_append]
      exact one.seq (others.map (fun others => (row.field.name,value) :: others))
    · rw [Value.unifiedOf_eq] at equal ⊢
      simp only [List.map_cons,equal,same,Row.named,Value.unifiedOf_eq]

theorem takes_present {ordinal : String → Value → Except Fault Value} {nested : String → Read Value}
    {below : TypeRef} (label : Option String) (one : Read.Takes (below.readBy ordinal nested) (encoding items) lifted) :
    Read.Takes ((TypeRef.optional below label).readBy ordinal nested) (encoding (.presence true :: items))
      (if below.isOptional then .wrapped lifted else lifted) :=
  (Read.takes_presence true).seq (one.map (fun lifted => if below.isOptional then Value.wrapped lifted else lifted))

theorem takes_member {enumeration : Enumeration} {nested : String → Read Value} {ordinal : Nat} (aside : Option TypeRef)
    (found : model.enumeration? name = some enumeration) (member : (label,ordinal) ∈ enumeration.roster.labels)
    (range : ordinal < 2 ^ 31) :
    Read.Takes ((TypeRef.named .enumeration name aside).readBy model.fromOrdinal nested) (wordBytes 4 ordinal)
      (.member enumeration.roster label ordinal) := by
  have last : Read.Takes (Read.ofResult (model.fromOrdinal name (.int (ordinal : Int)))) []
      (Value.member enumeration.roster label ordinal) := by
    rw [fromOrdinal_member found member]
    exact Read.takes_pure _
  rw [← List.append_nil (wordBytes 4 ordinal)]
  exact (Read.takes_i32 range).seq last

-- An encoding is read back, for every count that lets the records of the value be entered.
theorem Laid.reads (laid : Laid model type value items) (depth : Nat) (deep : value.recordDepth ≤ depth)
    (small : (encoding items).length < capacity 4) :
    ∃ lifted, Read.Takes (type.readBy model.fromOrdinal (model.recordRead depth)) (encoding items) lifted ∧
      lifted.unified = value.unified := by
  induction laid generalizing depth with
  | boolean value => exact ⟨_,(Read.takes_truth value).map Value.bool,rfl⟩
  | u32 number range =>
    rw [encoding_singleton]
    exact ⟨_,(Read.takes_word 4 range).map (fun number : Nat => Value.int number),rfl⟩
  | u64 number range =>
    rw [encoding_singleton]
    exact ⟨_,(Read.takes_word 8 range).map (fun number : Nat => Value.int number),rfl⟩
  | float value fits =>
    obtain ⟨pattern,range,narrow,same⟩ := Double.widen_narrow fits
    rw [encoding_singleton,Item.bytes,narrow]
    refine ⟨_,(Read.takes_single range).map Value.float,?_⟩
    simp only [Value.unified,same]
  | double value =>
    rw [encoding_singleton]
    exact ⟨_,(Read.takes_double value).map Value.float,rfl⟩
  | string text =>
    simp only [encoding_singleton,Item.bytes,List.length_append,wordBytes_length] at small ⊢
    exact ⟨_,(Read.takes_text (by omega)).map Value.text,rfl⟩
  | bytes content =>
    simp only [encoding_singleton,Item.bytes,List.length_append,wordBytes_length] at small ⊢
    exact ⟨_,(Read.takes_bytes (by omega)).map Value.bytes,rfl⟩
  | @enumeration name enumeration aside found label ordinal member range =>
    rw [encoding_singleton]
    exact ⟨_,takes_member aside found member range,rfl⟩
  | @record name aside record rows found fields each ih =>
    cases depth with
    | zero => simp [Value.recordDepth] at deep
    | succ depth =>
      obtain ⟨named,taken,same⟩ := takes_fields rows (fun row member => ih row member depth
        (Nat.le_of_lt_succ (lt_of_lt_of_le (Row.depth_lt record.name member) deep))
        (lt_of_le_of_lt (length_row member) small))
      refine ⟨.record name named,?_,?_⟩
      · simp only [TypeRef.readBy,Model.recordRead,found,fields]
        exact taken.map (Value.record name)
      · simp only [Value.unified,same,Model.record?_name found]
  | absent => exact ⟨_,(Read.takes_presence false).seq (Read.takes_pure Value.null),rfl⟩
  | @bare below value items label flat laid ih =>
    rw [encoding_cons,List.length_append] at small
    obtain ⟨lifted,taken,same⟩ := ih depth deep (by omega)
    have done := takes_present label taken
    rw [flat] at done
    exact ⟨lifted,done,same⟩
  | @wrapped below value items label nested laid ih =>
    rw [encoding_cons,List.length_append] at small
    obtain ⟨lifted,taken,same⟩ := ih depth deep (by omega)
    have done := takes_present label taken
    rw [nested] at done
    refine ⟨.wrapped lifted,done,?_⟩
    simp only [Value.unified,same]

-- A record that has a value is on no way down from itself.
theorem Laid.ends (laid : Laid model type value items) (same : type = .named .record name aside) :
    Acc (fun inner outer => model.Nests outer inner) name := by
  induction laid generalizing name aside with
  | @record name' _ record rows found fields each ih =>
    obtain ⟨_,rfl,_⟩ := TypeRef.named.inj same
    refine ⟨_,?_⟩
    rintro inner ⟨record',found',field,member,aside',type⟩
    obtain rfl := Option.some.inj (found.symm.trans found')
    rw [fields] at member
    obtain ⟨row,present,rfl⟩ := List.mem_map.mp member
    exact ih row present type
  | _ => cases same

theorem recordDepth_rows {rows : List Row} {bound : Nat} (name : String) (positive : 0 < bound)
    (each : ∀ row ∈ rows, row.value.recordDepth < bound) :
    (Value.record name (rows.map Row.named)).recordDepth ≤ bound := by
  simp only [Value.recordDepth]
  induction rows with
  | nil => exact positive
  | cons row rest ih =>
    have first := each row List.mem_cons_self
    have others := ih (fun r m => each r (List.mem_cons_of_mem _ m))
    simp only [List.map_cons,Value.recordDepthOf,Value.recordDepthOfRow_eq,Row.named] at others ⊢
    omega

-- Between two bytes of an encoding there are no more records than can be met on one
-- way down. This is why the bytes alone bound how deep a value is nested.
theorem Laid.depth_le (laid : Laid model type value items) :
    value.recordDepth ≤ (encoding items).length * (model.records.length + 1) + model.typeRank type := by
  have step (length : Nat) (below : TypeRef) :
      length * (model.records.length + 1) + model.typeRank below ≤ (length + 1) * (model.records.length + 1) := by
    have most := model.typeRank_le below
    rw [Nat.succ_mul]
    omega
  induction laid with
  | @record name aside record rows found fields each ih =>
    have free := Model.free_of_acc ((Laid.record found fields each : Laid model (.named .record name aside) _ _).ends rfl)
    refine recordDepth_rows record.name (Nat.lt_of_lt_of_le (Model.rank_pos found) (Nat.le_add_left _ _)) ?_
    intro row member
    have rank := Model.typeRank_lt found (fields ▸ List.mem_map_of_mem member) free
    have length := Nat.mul_le_mul_right (model.records.length + 1) (length_row member)
    have depth := ih row member
    exact lt_of_le_of_lt depth (Nat.add_lt_add_of_le_of_lt length rank)
  | @bare below value items label flat laid ih =>
    rw [encoding_cons,List.length_append]
    refine (ih.trans (step _ below)).trans ?_
    exact Nat.le_trans (Nat.mul_le_mul_right _ (by simp [Item.bytes])) (Nat.le_add_right _ _)
  | @wrapped below value items label nested laid ih =>
    rw [encoding_cons,List.length_append]
    refine (ih.trans (step _ below)).trans ?_
    exact Nat.le_trans (Nat.mul_le_mul_right _ (by simp [Item.bytes])) (Nat.le_add_right _ _)
  | _ => exact Nat.zero_le _

end

namespace Model

def decodeWhole (model : Model) (type : TypeRef) : Read Value := do
  let value ← model.decode type
  Read.finish
  return value

end Model

theorem decodeWhole_done {model : Model} (done : model.decode type bytes = .ok value []) :
    model.decodeWhole type bytes = .ok value [] := by
  rw [Model.decodeWhole,seq_ok done]
  rfl

theorem Model.deep_start (model : Model) (type : TypeRef) {length available : Nat} (within : length ≤ available) :
    length * (model.records.length + 1) + model.typeRank type ≤ model.readDepth available := by
  have most := model.typeRank_le type
  have bytes := Nat.mul_le_mul_right (model.records.length + 1) within
  rw [readDepth,Nat.succ_mul]
  omega

theorem decode_inside {model : Model} (type : TypeRef) (other : ∀ label aside, type ≠ .plain .bytes label aside)
    (bytes : List UInt8) : model.decode type bytes =
      type.readBy model.fromOrdinal (model.recordRead (model.readDepth bytes.length)) bytes := by
  cases type with
  | plain which label aside =>
    cases which with
    | bytes => exact absurd rfl (other label aside)
    | _ => rfl
  | named | optional => rfl

theorem Laid.reads_whole {model : Model} (laid : Laid model type value items)
    (other : ∀ label aside, type ≠ .plain .bytes label aside) (small : (encoding items).length < capacity 4) :
    ∃ lifted, model.decodeWhole type (encoding items) = .ok lifted [] ∧ lifted.unified = value.unified := by
  have deep := laid.depth_le.trans (model.deep_start type (Nat.le_refl _))
  obtain ⟨lifted,taken,same⟩ := laid.reads _ deep small
  have done := taken []
  rw [List.append_nil,← decode_inside type other] at done
  exact ⟨lifted,decodeWhole_done done,same⟩

theorem LaidWhole.reads {model : Model} (laid : LaidWhole model type value items)
    (small : (encoding items).length < capacity 4) :
    ∃ lifted, model.decodeWhole type (encoding items) = .ok lifted [] ∧ lifted.unified = value.unified := by
  cases laid with
  | bytes content =>
    rw [encoding_singleton]
    exact ⟨_,decodeWhole_done rfl,rfl⟩
  | record laid => exact laid.reads_whole nofun small
  | optional laid => exact laid.reads_whole nofun small

end NativeBinding
