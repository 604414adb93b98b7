import NativeBinding.Proofs.Codec.Decode
import NativeBinding.Proofs.Wire.Short

namespace NativeBinding
open Wire

theorem Wire.Double.narrow_number {value : Double} {pattern : Nat} (number : value.isNan = false) (narrow : value.narrow = some pattern) :
    pattern < capacity 4 ∧ FloatFormat.single.isNan pattern = false := by
  have signed (negative : Bool) {size : Nat} (low : size ≤ FloatFormat.single.infinity) :
      FloatFormat.single.withSign negative size < capacity 4 ∧
        FloatFormat.single.isNan (FloatFormat.single.withSign negative size) = false := by
    have small : size < FloatFormat.single.signBit := lt_of_le_of_lt low (by decide)
    refine ⟨FloatFormat.withSign_lt negative small,?_⟩
    rw [FloatFormat.isNan,FloatFormat.magnitude_withSign negative small]
    exact decide_eq_false (Nat.not_lt.mpr low)
  simp only [Double.isNan] at number
  simp only [Double.narrow,number,Bool.false_eq_true,if_false] at narrow
  split at narrow
  · cases narrow
    exact signed _ (Nat.le_refl _)
  · split at narrow
    · cases narrow
    · rename_i below
      cases narrow
      exact signed _ (Nat.le_of_not_le below)

section
variable {model : Model}

theorem laid_rows {pairs : List (Field × Value)}
    (each : ∀ pair ∈ pairs, ∃ exact items, Laid model pair.1.type exact items ∧ model.layoutRow pair = encoding items) :
    ∃ rows : List Row, pairs.map Prod.fst = rows.map Row.field ∧
      (∀ row ∈ rows, Laid model row.field.type row.value row.items) ∧
        pairs.flatMap model.layoutRow = encoding (rows.flatMap Row.items) := by
  induction pairs with
  | nil => exact ⟨[],rfl,by simp,rfl⟩
  | cons pair rest ih =>
    obtain ⟨exact,items,laid,same⟩ := each pair List.mem_cons_self
    obtain ⟨rows,fields,laids,equal⟩ := ih (fun p m => each p (List.mem_cons_of_mem _ m))
    refine ⟨⟨pair.1,exact,items⟩ :: rows,?_,List.forall_mem_cons.mpr ⟨laid,laids⟩,?_⟩
    · rw [List.map_cons,List.map_cons,fields]
    · rw [List.flatMap_cons,List.flatMap_cons,encoding_append,same,equal]

theorem Typed.laid (typed : Typed model type value) (distinct : model.Distinct) :
    ∃ exact items, Laid model type exact items ∧ model.layout type value = encoding items := by
  have own {type : TypeRef} {value : Value} {items : List Item} (laid : Laid model type value items) :
      ∃ exact items, Laid model type exact items ∧ model.layout type value = encoding items :=
    ⟨value,items,laid,laid.layout distinct⟩
  induction typed with
  | boolean value => exact own (.boolean value)
  | u32 number small => exact own (.u32 number small)
  | u64 number small => exact own (.u64 number small)
  | float value held =>
    cases other : value.isNan with
    | true => exact own (.float value (.inl other))
    | false =>
      obtain ⟨pattern,narrow⟩ := Option.isSome_iff_exists.mp held
      obtain ⟨small,number⟩ := Double.narrow_number other narrow
      refine ⟨_,_,.float (Double.widen pattern) (Double.isSingle_widen pattern),?_⟩
      rw [encoding_singleton,Item.bytes,Double.narrow_widen small number,Model.layout,narrow]
  | double value => exact own (.double value)
  | string text => exact own (.string text)
  | bytes content => exact own (.bytes content)
  | enumeration found label ordinal member small => exact own (.enumeration found label ordinal member small)
  | @record name aside record pairs found fields each ih =>
    obtain ⟨rows,names,laids,same⟩ := laid_rows ih
    refine ⟨_,_,.record found (fields.trans names) laids,?_⟩
    rw [Model.layout_record found fields,same]
  | absent => exact own .absent
  | bare flat typed ih =>
    obtain ⟨exact,items,laid,same⟩ := ih
    refine ⟨exact,_,.bare flat laid,?_⟩
    rw [Model.layout_bare flat (typed.present flat),same,encoding_cons]
    rfl
  | wrapped nested typed ih =>
    obtain ⟨exact,items,laid,same⟩ := ih
    refine ⟨.wrapped exact,_,.wrapped nested laid,?_⟩
    rw [Model.layout_wrapped nested,same,encoding_cons]
    rfl

theorem misses_fields {limit : Nat} {read : TypeRef → Read Value} (rows : List Row)
    (each : ∀ row ∈ rows, ∀ less ≤ limit, Read.Misses less (read row.field.type) (encoding row.items) ∧
      ((encoding row.items).length ≤ less → ∃ value, Read.Takes (read row.field.type) (encoding row.items) value)) :
    Read.Misses limit (readFields read (rows.map Row.field)) (encoding (rows.flatMap Row.items)) := by
  induction rows generalizing limit with
  | nil => exact Read.misses_nil
  | cons row rest ih =>
    obtain ⟨own,taken⟩ := each row List.mem_cons_self limit (Nat.le_refl _)
    rw [List.map_cons,List.flatMap_cons,encoding_append]
    refine own.seq (fun short => ?_)
    obtain ⟨value,taken⟩ := taken short
    refine ⟨value,taken,Read.Misses.before (ih ?_) _⟩
    intro other member less below
    exact each other (List.mem_cons_of_mem _ member) less (below.trans (Nat.sub_le _ _))

theorem misses_present {ordinal : String → Value → Except Fault Value} {nested : String → Read Value} {limit : Nat}
    {below : TypeRef} (label : Option String)
    (one : 0 < limit → Read.Misses (limit - 1) (below.readBy ordinal nested) (encoding items)) :
    Read.Misses limit ((TypeRef.optional below label).readBy ordinal nested) (encoding (.presence true :: items)) :=
  (Read.misses_presence 1).seq (fun short => ⟨true,Read.takes_presence true,(one short).before _⟩)

-- Of an encoding that is cut off, the first item that is not there in full is the one at
-- which reading fails. The bytes that are there bound how deep reading gets before that.
theorem Laid.misses (laid : Laid model type value items) (limit depth : Nat)
    (deep : limit * (model.records.length + 1) + model.typeRank type ≤ depth) (small : (encoding items).length < capacity 4) :
    Read.Misses limit (type.readBy model.fromOrdinal (model.recordRead depth)) (encoding items) := by
  induction laid generalizing limit depth with
  | boolean value => exact (Read.misses_truth _).before _
  | u32 number =>
    rw [encoding_singleton]
    exact (Read.misses_word 4 (wordBytes_length 4 number)).before _
  | u64 number =>
    rw [encoding_singleton]
    exact (Read.misses_word 8 (wordBytes_length 8 number)).before _
  | float value =>
    rw [encoding_singleton]
    exact (Read.misses_single _).before _
  | double value =>
    rw [encoding_singleton]
    exact (Read.misses_double _).before _
  | string text =>
    simp only [encoding_singleton,Item.bytes,List.length_append,wordBytes_length] at small ⊢
    exact (Read.misses_text (by omega)).before _
  | bytes content =>
    simp only [encoding_singleton,Item.bytes,List.length_append,wordBytes_length] at small ⊢
    exact (Read.misses_bytes (by omega)).before _
  | enumeration found label ordinal =>
    rw [encoding_singleton]
    exact (Read.misses_i32 ordinal).before _
  | @record name aside record rows found fields each ih =>
    have free := Model.free_of_acc ((Laid.record found fields each : Laid model (.named .record name aside) _ _).ends rfl)
    cases depth with
    | zero =>
      have positive : 0 < model.typeRank (.named .record name aside) := Model.rank_pos found
      omega
    | succ depth =>
      simp only [TypeRef.readBy,Model.recordRead,found,fields]
      refine (misses_fields rows ?_).before _
      intro row member less below
      have inner : row.field ∈ record.fields := fields ▸ List.mem_map_of_mem member
      have small' := lt_of_le_of_lt (length_row member) small
      refine ⟨ih row member less depth (Model.deep_inside found inner free deep below) small',fun there => ?_⟩
      have enough := (each row member).depth_le.trans (Model.deep_inside found inner free deep (there.trans below))
      obtain ⟨lifted,taken,_⟩ := (each row member).reads depth enough small'
      exact ⟨lifted,taken⟩
  | absent => exact (Read.misses_presence 0).before _
  | @bare below value items label flat laid ih =>
    rw [encoding_cons,List.length_append] at small
    exact misses_present label (fun some => ih _ depth (Model.deep_behind deep some below) (by omega))
  | @wrapped below value items label nested laid ih =>
    rw [encoding_cons,List.length_append] at small
    exact misses_present label (fun some => ih _ depth (Model.deep_behind deep some below) (by omega))

end

section
variable {model : Model} {type : TypeRef} (other : ∀ label aside, type ≠ .plain .bytes label aside)
include other

theorem Laid.decodes_cut (laid : Laid model type value items) (small : (encoding items).length < capacity 4) (some : lost ≠ [])
    (cut : encoding items = kept ++ lost) : ∃ left, model.decodeWhole type kept = .error (.disagreement .endedEarly) left := by
  have deep := model.deep_start type (Nat.le_refl kept.length)
  obtain ⟨left,failed⟩ := laid.misses kept.length _ deep small kept lost (Nat.le_refl _) some cut
  rw [← decode_inside type other] at failed
  exact ⟨left,seq_error failed⟩

theorem Laid.decodes_extended (laid : Laid model type value items) (small : (encoding items).length < capacity 4) (some : extra ≠ []) :
    ∃ left, model.decodeWhole type (encoding items ++ extra) = .error (.disagreement (.junk extra.length)) left := by
  have longer : (encoding items).length ≤ (encoding items ++ extra).length := by simp
  have deep := laid.depth_le.trans (model.deep_start type longer)
  obtain ⟨lifted,taken,_⟩ := laid.reads _ deep small
  have done := taken extra
  rw [← decode_inside type other] at done
  refine ⟨extra,?_⟩
  rw [Model.decodeWhole,seq_ok done]
  cases extra with
  | nil => exact absurd rfl some
  | cons byte rest => rfl

end
end NativeBinding
