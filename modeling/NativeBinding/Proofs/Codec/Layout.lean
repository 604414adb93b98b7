import NativeBinding.Proofs.Wire.Narrow
import NativeBinding.Text.Utf8
import NativeBinding.Value

namespace NativeBinding
open Wire

-- What an encoding is made of. Only counted content carries its length in front.
inductive Item
  | flag (value : Bool)
  | presence (value : Bool)
  | word (width value : Nat)
  | single (value : Double)
  | double (value : Double)
  | counted (content : List UInt8)
  | whole (content : List UInt8)

namespace Item

def bytes : Item → List UInt8
  | .flag value => [if value then 1 else 0]
  | .presence value => [if value then 1 else 0]
  | .word width value => wordBytes width value
  | .single value => wordBytes 4 (value.narrow.getD 0)
  | .double value => wordBytes 8 value.pattern
  | .counted content => wordBytes 4 content.length ++ content
  | .whole content => content

-- Bytes that are read as an item: its own ones, any byte but zero for a true flag, and
-- for a no-number any pattern of one.
inductive ReadFrom : Item → List UInt8 → Prop
  | own (item : Item) : ReadFrom item item.bytes
  | flag (byte : UInt8) (set : byte ≠ 0) : ReadFrom (.flag true) [byte]
  | nan (value : Double) (pattern : Nat) (isNan : value.isNan) (small : pattern < capacity 4)
      (other : FloatFormat.single.isNan pattern) : ReadFrom (.single value) (wordBytes 4 pattern)

end Item

def encoding (items : List Item) : List UInt8 := items.flatMap Item.bytes

inductive Variant : List Item → List UInt8 → Prop
  | nil : Variant [] []
  | cons {item : Item} {taken : List UInt8} {items : List Item} {rest : List UInt8} (one : item.ReadFrom taken)
      (others : Variant items rest) : Variant (item :: items) (taken ++ rest)

theorem encoding_append (a b : List Item) : encoding (a ++ b) = encoding a ++ encoding b := List.flatMap_append

theorem encoding_cons (item : Item) (items : List Item) : encoding (item :: items) = item.bytes ++ encoding items := rfl

theorem encoding_singleton (item : Item) : encoding [item] = item.bytes := by simp [encoding]

theorem Variant.append (one : Variant items taken) (two : Variant others rest) :
    Variant (items ++ others) (taken ++ rest) := by
  induction one with
  | nil => exact two
  | cons first _ ih => rw [List.append_assoc]; exact .cons first ih

theorem Variant.single {item : Item} (one : item.ReadFrom taken) : Variant [item] taken := by
  have done := Variant.cons one .nil
  rwa [List.append_nil] at done

theorem Item.ReadFrom.length {item : Item} (one : item.ReadFrom taken) : taken.length = item.bytes.length := by
  cases one with
  | own => rfl
  | flag => rfl
  | nan => simp [Item.bytes,wordBytes_length]

theorem Variant.length (one : Variant items taken) : taken.length = (encoding items).length := by
  induction one with
  | nil => rfl
  | cons first _ ih => rw [encoding_cons,List.length_append,List.length_append,first.length,ih]

structure Row where
  field : Field
  value : Value
  items : List Item

namespace Row

def named (row : Row) : String × Value := (row.field.name,row.value)

end Row

-- Values that fit a type, with the items that they are laid out in. Integers and
-- ordinals are in the range of their words; a present optional stands bare unless it
-- has to be told from an absent one further in.
inductive Laid (model : Model) : TypeRef → Value → List Item → Prop
  | boolean (value : Bool) : Laid model (.plain .boolean label aside) (.bool value) [.flag value]
  | u32 (number : Nat) (small : number < capacity 4) :
      Laid model (.plain .u32 label aside) (.int number) [.word 4 number]
  | u64 (number : Nat) (small : number < capacity 8) :
      Laid model (.plain .u64 label aside) (.int number) [.word 8 number]
  | float (value : Double) (fits : value.IsSingle) :
      Laid model (.plain .float label aside) (.float value) [.single value]
  | double (value : Double) : Laid model (.plain .double label aside) (.float value) [.double value]
  | string (text : String) :
      Laid model (.plain .string label aside) (.text text) [.counted (Text.Utf8.encode text)]
  | bytes (content : List UInt8) : Laid model (.plain .bytes label aside) (.bytes content) [.counted content]
  | enumeration (found : model.enumeration? name = some enumeration) (label : String) (ordinal : Nat)
      (member : (label,ordinal) ∈ enumeration.roster.labels) (small : ordinal < 0x80000000) :
      Laid model (.named .enumeration name aside) (.member enumeration.roster label ordinal) [.word 4 ordinal]
  | record {record : Record} {rows : List Row} (found : model.record? name = some record)
      (fields : record.fields = rows.map Row.field) (each : ∀ row ∈ rows, Laid model row.field.type row.value row.items) :
      Laid model (.named .record name aside) (.record record.name (rows.map Row.named)) (rows.flatMap Row.items)
  | absent : Laid model (.optional below label) .null [.presence false]
  | bare (flat : below.isOptional = false) (laid : Laid model below value items) :
      Laid model (.optional below label) value (.presence true :: items)
  | wrapped (nested : below.isOptional = true) (laid : Laid model below value items) :
      Laid model (.optional below label) (.wrapped value) (.presence true :: items)

inductive LaidWhole (model : Model) : TypeRef → Value → List Item → Prop
  | bytes (content : List UInt8) : LaidWhole model (.plain .bytes label aside) (.bytes content) [.whole content]
  | record (laid : Laid model (.named .record name aside) value items) :
      LaidWhole model (.named .record name aside) value items
  | optional (laid : Laid model (.optional below label) value items) :
      LaidWhole model (.optional below label) value items

namespace Value

mutual
def unified : Value → Value
  | .float value => .float value.unified
  | .wrapped value => .wrapped value.unified
  | .record name fields => .record name (unifiedOf fields)
  | value => value

def unifiedOf : List (String × Value) → List (String × Value)
  | [] => []
  | row :: rest => unifiedOfRow row :: unifiedOf rest

def unifiedOfRow : String × Value → String × Value
  | (name,value) => (name,value.unified)
end

end Value
end NativeBinding
