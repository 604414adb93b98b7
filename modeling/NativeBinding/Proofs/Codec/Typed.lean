import NativeBinding.Emitted.ForeignType
import NativeBinding.Proofs.Codec.Layout
import NativeBinding.Proofs.Interface.Nesting

namespace NativeBinding
open Wire

-- Values that fit a type. Integers and ordinals are in the range of their words, and a
-- float is one that the narrow format has room for once it is rounded.
inductive Typed (model : Model) : TypeRef → Value → Prop
  | boolean (value : Bool) : Typed model (.plain .boolean label aside) (.bool value)
  | u32 (number : Nat) (small : number < capacity 4) : Typed model (.plain .u32 label aside) (.int number)
  | u64 (number : Nat) (small : number < capacity 8) : Typed model (.plain .u64 label aside) (.int number)
  | float (value : Double) (held : value.narrow.isSome) : Typed model (.plain .float label aside) (.float value)
  | double (value : Double) : Typed model (.plain .double label aside) (.float value)
  | string (text : String) : Typed model (.plain .string label aside) (.text text)
  | bytes (content : List UInt8) : Typed model (.plain .bytes label aside) (.bytes content)
  | enumeration (found : model.enumeration? name = some enumeration) (label : String) (ordinal : Nat)
      (member : (label,ordinal) ∈ enumeration.roster.labels) (small : ordinal < 0x80000000) :
      Typed model (.named .enumeration name aside) (.member enumeration.roster label ordinal)
  | record {record : Record} {rows : List (Field × Value)} (found : model.record? name = some record)
      (fields : record.fields = rows.map Prod.fst) (each : ∀ row ∈ rows, Typed model row.1.type row.2) :
      Typed model (.named .record name aside) (.record record.name (rows.map (fun row => (row.1.name,row.2))))
  | absent : Typed model (.optional below label) .null
  | bare (flat : below.isOptional = false) (typed : Typed model below value) : Typed model (.optional below label) value
  | wrapped (nested : below.isOptional = true) (typed : Typed model below value) :
      Typed model (.optional below label) (.wrapped value)

def counted (content : List UInt8) : List UInt8 := wordBytes 4 content.length ++ content

namespace Model

def position (model : Model) (name label : String) : Nat :=
  match model.enumeration? name with
  | none => 0
  | some enumeration => enumeration.values.idxOf label + 1

def fieldsOf (model : Model) (name : String) : List Field :=
  match model.record? name with
  | none => []
  | some record => record.fields

-- The bytes that a value is made of, by its type and without a writer. For a value that
-- does not fit, they mean nothing.
mutual
def layout (model : Model) : TypeRef → Value → List UInt8
  | .plain .boolean ..,.bool value => [if value then 1 else 0]
  | .plain .u32 ..,.int number => wordBytes 4 number.toNat
  | .plain .u64 ..,.int number => wordBytes 8 number.toNat
  | .plain .float ..,.float value => wordBytes 4 (value.narrow.getD 0)
  | .plain .double ..,.float value => wordBytes 8 value.pattern
  | .plain .string ..,.text text => counted (Text.Utf8.encode text)
  | .plain .bytes ..,.bytes content => counted content
  | .named .enumeration name _,.member _ label _ => wordBytes 4 (signedWord 4 (model.position name label))
  | .named .record name _,.record _ values => model.layoutFields (model.fieldsOf name) values
  | .optional .. ,.null => [0]
  | .optional (.optional below label) _,.wrapped value => 1 :: model.layout (.optional below label) value
  | .optional below _,value => 1 :: model.layout below value
  | _,_ => []
termination_by type value => (sizeOf value,sizeOf type)

def layoutFields (model : Model) : List Field → List (String × Value) → List UInt8
  | field :: fields,(_,value) :: values => model.layout field.type value ++ model.layoutFields fields values
  | _,_ => []
termination_by _ values => (sizeOf values,0)
end

def layoutRow (model : Model) (row : Field × Value) : List UInt8 := model.layout row.1.type row.2

def layoutWhole (model : Model) : TypeRef → Value → List UInt8
  | .plain .bytes ..,.bytes content => content
  | type,value => model.layout type value

variable {model : Model}

theorem layoutFields_rows (rows : List (Field × Value)) :
    model.layoutFields (rows.map Prod.fst) (rows.map (fun row => (row.1.name,row.2))) =
      rows.flatMap model.layoutRow := by
  induction rows with
  | nil => simp [layoutFields]
  | cons row rest ih => simp [layoutFields,layoutRow,ih]

theorem layout_bare {below : TypeRef} (flat : below.isOptional = false) (present : value ≠ .null) :
    model.layout (.optional below label) value = 1 :: model.layout below value := by
  cases below with
  | optional => cases flat
  | _ =>
    cases value with
    | null => exact absurd rfl present
    | _ => simp only [layout]

theorem layout_wrapped {below : TypeRef} (nested : below.isOptional = true) :
    model.layout (.optional below label) (.wrapped value) = 1 :: model.layout below value := by
  cases below with
  | optional => simp only [layout]
  | _ => cases nested

theorem position_ordinal (found : model.enumeration? name = some enumeration) (distinct : enumeration.values.Nodup)
    (member : (label,ordinal) ∈ enumeration.roster.labels) : model.position name label = ordinal := by
  obtain ⟨first,_,same⟩ := List.mem_zipIdx member
  rw [position,found]
  dsimp only
  rw [same,distinct.idxOf_getElem]
  omega

theorem layout_member (found : model.enumeration? name = some enumeration) (distinct : enumeration.values.Nodup)
    (member : (label,ordinal) ∈ enumeration.roster.labels) (small : ordinal < 0x80000000) :
    model.layout (.named .enumeration name aside) (.member enumeration.roster label ordinal) = wordBytes 4 ordinal := by
  rw [layout,position_ordinal found distinct member,signedWord_small small]

theorem layout_record {rows : List (Field × Value)} (found : model.record? name = some record)
    (fields : record.fields = rows.map Prod.fst) :
    model.layout (.named .record name aside) (.record record.name (rows.map (fun row => (row.1.name,row.2)))) =
      rows.flatMap model.layoutRow := by
  rw [layout,fieldsOf,found]
  dsimp only
  rw [fields,layoutFields_rows]

end Model

section
variable {model : Model}

theorem Typed.present (typed : Typed model type value) (flat : type.isOptional = false) : value ≠ .null := by
  cases typed with
  | absent => cases flat
  | bare => cases flat
  | wrapped => cases flat
  | _ => nofun

def Row.pairs (rows : List Row) : List (Field × Value) := rows.map (fun row => (row.field,row.value))

theorem Row.pairs_fields (rows : List Row) : (Row.pairs rows).map Prod.fst = rows.map Row.field := by
  rw [pairs,List.map_map]
  rfl

theorem Row.pairs_named (rows : List Row) : (Row.pairs rows).map (fun row => (row.1.name,row.2)) = rows.map Row.named := by
  rw [pairs,List.map_map]
  rfl

theorem Laid.typed (laid : Laid model type value items) : Typed model type value := by
  induction laid with
  | boolean value => exact .boolean value
  | u32 number small => exact .u32 number small
  | u64 number small => exact .u64 number small
  | float value fits =>
    obtain ⟨_,_,narrow,_⟩ := Double.widen_narrow fits
    exact .float value (Option.isSome_of_eq_some narrow)
  | double value => exact .double value
  | string text => exact .string text
  | bytes content => exact .bytes content
  | enumeration found label ordinal member small => exact .enumeration found label ordinal member small
  | @record name aside record rows found fields each ih =>
    rw [← Row.pairs_named]
    refine .record found (by rw [fields,Row.pairs_fields]) ?_
    intro pair member
    obtain ⟨row,part,rfl⟩ := List.mem_map.mp member
    exact ih row part
  | absent => exact .absent
  | bare flat _ ih => exact .bare flat ih
  | wrapped nested _ ih => exact .wrapped nested ih

theorem Laid.layout (laid : Laid model type value items) (distinct : model.Distinct) :
    model.layout type value = encoding items := by
  induction laid with
  | boolean | u32 | u64 | float | double | string | bytes =>
    simp [Model.layout,encoding_singleton,Item.bytes,counted]
  | enumeration found label ordinal member small =>
    rw [Model.layout_member found (distinct.values _ (Model.enumeration?_mem found)) member small,encoding_singleton,Item.bytes]
  | @record name aside record rows found fields each ih =>
    rw [← Row.pairs_named,Model.layout_record found (by rw [fields,Row.pairs_fields]),Row.pairs,List.flatMap_map,encoding,
      List.flatMap_assoc]
    exact List.flatMap_congr ih
  | absent => simp [Model.layout,encoding_singleton,Item.bytes]
  | bare flat laid ih =>
    rw [Model.layout_bare flat (laid.typed.present flat),encoding_cons,ih]
    rfl
  | wrapped nested laid ih =>
    rw [Model.layout_wrapped nested,encoding_cons,ih]
    rfl

theorem LaidWhole.typed (laid : LaidWhole model type value items) : type.isBuffer ∧ Typed model type value := by
  cases laid with
  | bytes content => exact ⟨rfl,.bytes content⟩
  | record laid => exact ⟨rfl,laid.typed⟩
  | optional laid => exact ⟨rfl,laid.typed⟩

theorem LaidWhole.layout (laid : LaidWhole model type value items) (distinct : model.Distinct) :
    model.layoutWhole type value = encoding items := by
  cases laid with
  | bytes content => rw [Model.layoutWhole,encoding_singleton,Item.bytes]
  | record laid => exact laid.layout distinct
  | optional laid => exact laid.layout distinct

end
end NativeBinding
