import NativeBinding.Codec.Encode
import NativeBinding.Proofs.Codec.Typed
import NativeBinding.Proofs.Wire.Append

namespace NativeBinding
open Wire

namespace Value

theorem recordDepthOfRow_eq (row : String × Value) : recordDepthOfRow row = row.2.recordDepth := by
  cases row; simp only [recordDepthOfRow]

theorem recordDepth_row {rows : List (String × Value)} (member : row ∈ rows) :
    row.2.recordDepth ≤ recordDepthOf rows := by
  induction rows with
  | nil => cases member
  | cons first rest ih =>
    simp only [recordDepthOf,recordDepthOfRow_eq]
    rcases List.mem_cons.mp member with rfl | old
    · exact Nat.le_max_left _ _
    · exact (ih old).trans (Nat.le_max_right _ _)

theorem fieldNamed_row {rows : List (String × Value)} (distinct : (rows.map Prod.fst).Nodup) (member : row ∈ rows) :
    fieldNamed rows row.1 = some row.2 := by
  induction rows with
  | nil => cases member
  | cons first rest ih =>
    obtain ⟨fresh,others⟩ := List.nodup_cons.mp distinct
    rcases List.mem_cons.mp member with rfl | old
    · simp [fieldNamed]
    · have other : first.1 ≠ row.1 := fun same => fresh (same ▸ List.mem_map_of_mem old)
      simp only [fieldNamed,List.find?_cons,beq_eq_false_iff_ne.mpr other]
      exact ih others old

end Value

theorem Value.part_row {rows : List (Field × Value)} (distinct : ((rows.map Prod.fst).map Field.name).Nodup) (name : String)
    (member : row ∈ rows) : (Value.record name (rows.map (fun row => (row.1.name,row.2)))).part row.1.name = some row.2 := by
  have names : ((rows.map (fun row => (row.1.name,row.2))).map Prod.fst).Nodup := by
    simpa [List.map_map,Function.comp_def] using distinct
  have listed : (row.1.name,row.2) ∈ rows.map (fun row => (row.1.name,row.2)) := List.mem_map_of_mem member
  exact fieldNamed_row names listed

theorem Value.wrapped_present (value : Value) : Value.wrapped value ≠ .null := nofun

theorem Value.depth_lt {rows : List (String × Value)} (name : String) (member : row ∈ rows) :
    row.2.recordDepth < (Value.record name rows).recordDepth := by
  simp only [recordDepth]
  exact Nat.lt_succ_of_le (recordDepth_row member)

theorem Value.depth_row {rows : List (Field × Value)} (name : String) (member : row ∈ rows) :
    row.2.recordDepth < (Value.record name (rows.map (fun row => (row.1.name,row.2)))).recordDepth := by
  have listed : (row.1.name,row.2) ∈ rows.map (fun row => (row.1.name,row.2)) := List.mem_map_of_mem member
  exact depth_lt name listed

theorem Row.depth_lt {rows : List Row} (name : String) (member : row ∈ rows) :
    row.value.recordDepth < (Value.record name (rows.map Row.named)).recordDepth := by
  have listed : row.named ∈ rows.map Row.named := List.mem_map_of_mem member
  exact Value.depth_lt name listed

namespace TypeRef

theorem sizeBy_present {nested : Value → Except Fault Nat} (present : value ≠ .null) :
    (TypeRef.optional below label).sizeBy nested value = (do
      let payload ← value.payload below
      let size ← below.sizeBy nested payload
      return 1 + size) := by
  cases value with
  | null => exact absurd rfl present
  | _ => rfl

theorem writeBy_present {nested : Value → Write Unit} (present : value ≠ .null) :
    (TypeRef.optional below label).writeBy nested value = (do
      Write.truth (.bool true)
      let payload ← Write.ofResult (value.payload below)
      below.writeBy nested payload) := by
  cases value with
  | null => exact absurd rfl present
  | _ => rfl

theorem sizeBy_fixed {nested : Value → Except Fault Nat} {type : TypeRef} (fixed : type.fixedSize? = some size) :
    type.sizeBy nested value = .ok size := by
  cases type with
  | plain which => cases which <;> simp_all [fixedSize?,sizeBy]
  | named which => cases which <;> simp_all [fixedSize?,sizeBy]
  | optional => simp [fixedSize?] at fixed

end TypeRef

theorem sizeFields_rows {nested : Value → Except Fault Nat} {owner : Value} {rows : List (Field × Value)}
    {content : Field × Value → List UInt8} (part : ∀ row ∈ rows, owner.part row.1.name = some row.2)
    (each : ∀ row ∈ rows, row.1.type.sizeBy nested row.2 = .ok (content row).length) :
    sizeFields nested owner (rows.map Prod.fst) = .ok (rows.flatMap content).length := by
  induction rows with
  | nil => rfl
  | cons row rest ih =>
    have others := ih (fun r m => part r (List.mem_cons_of_mem _ m)) (fun r m => each r (List.mem_cons_of_mem _ m))
    have own : row.1.sizeBy nested owner = .ok (content row).length := by
      have sized := each row List.mem_cons_self
      unfold Field.sizeBy
      split
      · rename_i fixed
        rwa [TypeRef.sizeBy_fixed fixed] at sized
      · simp only [Value.partOf,part row List.mem_cons_self]
        exact sized
    rw [List.map_cons,List.flatMap_cons,List.length_append]
    simp only [sizeFields,own,others]
    rfl

theorem writeFields_rows {nested : Value → Write Unit} {owner : Value} {rows : List (Field × Value)}
    {content : Field × Value → List UInt8} (part : ∀ row ∈ rows, owner.part row.1.name = some row.2)
    (each : ∀ row ∈ rows, Write.Appends (row.1.type.writeBy nested row.2) (content row)) :
    Write.Appends (writeFields nested owner (rows.map Prod.fst)) (rows.flatMap content) := by
  induction rows with
  | nil => exact Write.appends_nothing
  | cons row rest ih =>
    have others := ih (fun r m => part r (List.mem_cons_of_mem _ m)) (fun r m => each r (List.mem_cons_of_mem _ m))
    have own : Write.Appends (row.1.writeBy nested owner) (content row) := by
      simp only [Field.writeBy,Value.partOf,part row List.mem_cons_self]
      exact each row List.mem_cons_self
    rw [List.map_cons,List.flatMap_cons]
    exact own.seq others

theorem length_content (content : α → List UInt8) {rows : List α} (member : row ∈ rows) :
    (content row).length ≤ (rows.flatMap content).length := by
  induction rows with
  | nil => cases member
  | cons first rest ih =>
    rw [List.flatMap_cons,List.length_append]
    rcases List.mem_cons.mp member with rfl | old
    · exact Nat.le_add_right _ _
    · exact (ih old).trans (Nat.le_add_left _ _)

theorem length_row {rows : List Row} (member : row ∈ rows) :
    (encoding row.items).length ≤ (encoding (rows.flatMap Row.items)).length := by
  rw [encoding,encoding,List.flatMap_assoc]
  exact length_content (fun row : Row => row.items.flatMap Item.bytes) member

section
variable {model : Model} (distinct : model.DistinctFields)
include distinct

theorem rows_part {rows : List (Field × Value)} (found : model.record? name = some record) (fields : record.fields = rows.map Prod.fst) :
    ∀ row ∈ rows, (Value.record record.name (rows.map (fun row => (row.1.name,row.2)))).part row.1.name = some row.2 :=
  fun _ member => Value.part_row (fields ▸ distinct record (Model.record?_mem found)) _ member

theorem Typed.size (typed : Typed model type value) (depth : Nat) (deep : value.recordDepth ≤ depth) :
    type.sizeBy (model.recordSize depth) value = .ok (model.layout type value).length := by
  induction typed generalizing depth with
  | boolean | u32 | u64 | float | double | enumeration => simp [TypeRef.sizeBy,Model.layout,wordBytes_length]
  | string text => simp [TypeRef.sizeBy,Value.textSize,textOf,Model.layout,counted,wordBytes_length,bind,Except.bind,pure,
      Except.pure]
  | bytes content => simp [TypeRef.sizeBy,Value.length,Model.layout,counted,wordBytes_length,bind,Except.bind,pure,Except.pure]
  | @record name aside record rows found fields each ih =>
    cases depth with
    | zero => simp [Value.recordDepth] at deep
    | succ depth =>
      have own := Model.record?_name found
      rw [Model.layout_record found fields]
      simp only [TypeRef.sizeBy,Model.recordSize,own ▸ found,fields]
      refine sizeFields_rows (rows_part distinct found fields) (fun row member => ih row member depth ?_)
      exact Nat.le_of_lt_succ (lt_of_lt_of_le (Value.depth_row record.name member) deep)
  | absent => simp [TypeRef.sizeBy,Model.layout]
  | bare flat typed ih =>
    rw [TypeRef.sizeBy_present (typed.present flat),Model.layout_bare flat (typed.present flat)]
    simp only [Value.payload,flat]
    simp only [bind,Except.bind,pure,Except.pure,Bool.false_eq_true,if_false,ih depth deep]
    rw [List.length_cons,Nat.add_comm]
  | wrapped nested typed ih =>
    rw [TypeRef.sizeBy_present (Value.wrapped_present _),Model.layout_wrapped nested]
    simp only [Value.payload,nested,if_true,Value.partOf,Value.part,beq_self_eq_true]
    simp only [bind,Except.bind,pure,Except.pure,ih depth deep]
    rw [List.length_cons,Nat.add_comm]

end

section
variable {model : Model} (distinct : model.Distinct)
include distinct

-- No length that is written is larger than all of the layout.
theorem Typed.writes (typed : Typed model type value) (depth : Nat) (deep : value.recordDepth ≤ depth)
    (small : (model.layout type value).length < capacity 4) :
    Write.Appends (type.writeBy (model.recordWrite depth) value) (model.layout type value) := by
  induction typed generalizing depth with
  | boolean value =>
    rw [Model.layout]
    exact Write.appends_truth (.bool value)
  | u32 number range =>
    rw [Model.layout]
    exact Write.appends_unsigned (.int number) rfl range
  | u64 number range =>
    rw [Model.layout]
    exact Write.appends_unsigned (.int number) rfl range
  | float value held =>
    obtain ⟨pattern,narrow⟩ := Option.isSome_iff_exists.mp held
    rw [Model.layout,narrow]
    exact Write.appends_single narrow
  | double value =>
    rw [Model.layout]
    exact Write.appends_double value
  | string text =>
    simp only [Model.layout,counted,List.length_append,wordBytes_length] at small ⊢
    exact Write.appends_text (by omega)
  | bytes content =>
    simp only [Model.layout,counted,List.length_append,wordBytes_length] at small ⊢
    exact Write.appends_bytes (by omega)
  | enumeration found label ordinal member range =>
    rw [Model.layout_member found (distinct.values _ (Model.enumeration?_mem found)) member range]
    exact Write.appends_i32 (.int ordinal) rfl range
  | @record name aside record rows found fields each ih =>
    cases depth with
    | zero => simp [Value.recordDepth] at deep
    | succ depth =>
      have own := Model.record?_name found
      rw [Model.layout_record found fields] at small ⊢
      simp only [TypeRef.writeBy,Model.recordWrite,own ▸ found,fields]
      refine writeFields_rows (rows_part distinct.fields found fields) (fun row member => ih row member depth ?_ ?_)
      · exact Nat.le_of_lt_succ (lt_of_lt_of_le (Value.depth_row record.name member) deep)
      · exact lt_of_le_of_lt (length_content model.layoutRow member) small
  | absent =>
    rw [Model.layout]
    exact Write.appends_truth (.bool false)
  | bare flat typed ih =>
    rw [Model.layout_bare flat (typed.present flat)] at small ⊢
    rw [TypeRef.writeBy_present (typed.present flat)]
    simp only [Value.payload,flat]
    rw [List.length_cons] at small
    exact (Write.appends_truth (.bool true)).seq (ih depth deep (by omega))
  | wrapped nested typed ih =>
    rw [Model.layout_wrapped nested] at small ⊢
    rw [TypeRef.writeBy_present (Value.wrapped_present _)]
    simp only [Value.payload,nested]
    rw [List.length_cons] at small
    exact (Write.appends_truth (.bool true)).seq (ih depth deep (by omega))

end

section
variable {model : Model} {type : TypeRef} (distinct : model.Distinct) (whole : type.isBuffer)
include distinct whole

theorem Typed.wholeSize (typed : Typed model type value) :
    model.encodedSize type value = .ok (model.layoutWhole type value).length := by
  cases typed with
  | bytes content => rfl
  | @record name aside record rows found fields each =>
    simp only [Model.encodedSize,Model.layoutWhole,found,Model.layout_record found fields,fields]
    refine sizeFields_rows (rows_part distinct.fields found fields) (fun row member => (each row member).size distinct.fields _ ?_)
    exact (Value.depth_row record.name member).le
  | absent => exact Typed.absent.size distinct.fields _ (Nat.le_refl _)
  | bare flat typed => exact (Typed.bare flat typed).size distinct.fields _ (Nat.le_refl _)
  | wrapped nested typed => exact (Typed.wrapped nested typed).size distinct.fields _ (Nat.le_refl _)
  | _ => cases whole

theorem Typed.wholeWrites (typed : Typed model type value) (small : (model.layoutWhole type value).length < capacity 4) :
    Write.Appends (model.encode type value) (model.layoutWhole type value) := by
  cases typed with
  | bytes content => exact Write.appends_raw content
  | @record name aside record rows found fields each =>
    simp only [Model.encode,Model.layoutWhole,found,Model.layout_record found fields,fields] at small ⊢
    refine writeFields_rows (rows_part distinct.fields found fields) (fun row member => (each row member).writes distinct _ ?_ ?_)
    · exact (Value.depth_row record.name member).le
    · exact lt_of_le_of_lt (length_content model.layoutRow member) small
  | absent => exact Typed.absent.writes distinct _ (Nat.le_refl _) small
  | bare flat typed => exact (Typed.bare flat typed).writes distinct _ (Nat.le_refl _) small
  | wrapped nested typed => exact (Typed.wrapped nested typed).writes distinct _ (Nat.le_refl _) small
  | _ => cases whole

end

theorem LaidWhole.size {model : Model} (laid : LaidWhole model type value items) (distinct : model.Distinct) :
    model.encodedSize type value = .ok (encoding items).length := by
  obtain ⟨whole,typed⟩ := laid.typed
  rw [typed.wholeSize distinct whole,laid.layout distinct]

end NativeBinding
