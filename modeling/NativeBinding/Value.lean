import NativeBinding.Interface.Model
import NativeBinding.Wire.Binary

namespace NativeBinding
open Wire

structure Roster where
  name : String
  labels : List (String × Nat)
deriving DecidableEq,Repr

-- Host values. Nothing ties a value to the type it is used for: what an
-- unfitting value does is part of every operation that meets it. A thing
-- value is some object that no operation here can look into.
inductive Value
  | null
  | bool (value : Bool)
  | int (value : Int)
  | float (value : Double)
  | text (value : String)
  | bytes (value : List UInt8)
  | member (roster : Roster) (label : String) (ordinal : Nat)
  | wrapped (value : Value)
  | record (name : String) (fields : List (String × Value))
  | thing

def Enumeration.roster (enumeration : Enumeration) : Roster :=
  ⟨enumeration.name,enumeration.values.zipIdx 1⟩

namespace Roster

def named? (roster : Roster) (label : String) : Option Value :=
  (roster.labels.find? (fun row => row.1 == label)).map (fun row => .member roster row.1 row.2)

def at? (roster : Roster) (ordinal : Int) : Option Value :=
  (roster.labels.find? (fun row => (row.2 : Int) == ordinal)).map (fun row => .member roster row.1 row.2)

end Roster

namespace Value

def toInt? : Value → Option Int
  | .bool value => some (if value then 1 else 0)
  | .int value => some value
  | .member _ _ ordinal => some ordinal
  | _ => none

-- Nothing, zero and empty values are false; a double that is no number is true.
def truthy : Value → Bool
  | .null => false
  | .bool value => value
  | .int value => value != 0
  | .float value => !value.isZero
  | .text value => !value.isEmpty
  | .bytes value => !value.isEmpty
  | .member _ _ ordinal => ordinal != 0
  | .wrapped _ => true
  | .record .. => true
  | .thing => true

def isZero : Value → Bool
  | .float value => value.isZero
  | value => value.toInt? == some 0

def negative? : Value → Option Bool
  | .float value => some (!value.isNan && !value.isZero && FloatFormat.double.negative value.pattern)
  | value => value.toInt?.map (fun number => number < 0)

def fieldNamed (fields : List (String × Value)) (name : String) : Option Value :=
  (fields.find? (fun row => row.1 == name)).map Prod.snd

def integerAbilities : List String :=
  ["as_integer_ratio","bit_count","bit_length","conjugate","from_bytes","to_bytes"]

def floatAbilities : List String := ["as_integer_ratio","conjugate","fromhex","hex","is_integer"]

def sequenceAbilities : List String :=
  ["capitalize","center","count","endswith","expandtabs","find","index","isalnum","isalpha","isascii",
    "isdigit","islower","isspace","istitle","isupper","join","ljust","lower","lstrip","maketrans",
    "partition","removeprefix","removesuffix","replace","rfind","rindex","rjust","rpartition","rsplit",
    "rstrip","split","splitlines","startswith","strip","swapcase","title","translate","upper","zfill"]

def textAbilities : List String :=
  ["casefold","encode","format","format_map","isdecimal","isidentifier","isnumeric","isprintable"]

def bytesAbilities : List String := ["decode","fromhex","hex"]

def memberAbilities : List String :=
  ["_generate_next_value_","_member_map_","_member_names_","_member_type_","_missing_","_new_member_",
    "_unhashable_values_","_use_args_","_value2member_map_","_value_repr_","_from_ordinal"]

def ability (abilities : List String) (name : String) : Option Value :=
  if abilities.contains name then some .thing else none

def integerPart (value : Int) (name : String) : Option Value :=
  if name == "real" || name == "numerator" then some (.int value)
  else if name == "imag" then some (.int 0)
  else if name == "denominator" then some (.int 1)
  else ability integerAbilities name

def memberPart (roster : Roster) (label : String) (ordinal : Nat) (name : String) : Option Value :=
  if name == "value" || name == "_value_" then some (.int ordinal)
  else if name == "name" || name == "_name_" then some (.text label)
  else if name == "_sort_order_" then some (.int (roster.labels.idxOf (label,ordinal)))
  else (roster.named? name).or ((integerPart ordinal name).or (ability memberAbilities name))

def part (value : Value) (name : String) : Option Value :=
  match value with
  | .null => none
  | .bool flag => integerPart (if flag then 1 else 0) name
  | .int number => integerPart number name
  | .float number =>
    if name == "real" then some (.float number)
    else if name == "imag" then some (.float (.ofPattern 0))
    else ability floatAbilities name
  | .text _ => ability (sequenceAbilities ++ textAbilities) name
  | .bytes _ => ability (sequenceAbilities ++ bytesAbilities) name
  | .member roster label ordinal => memberPart roster label ordinal name
  | .wrapped inner =>
    if name == "value" then some inner else if name == "_is_protocol" then some (.bool false) else none
  | .record _ fields => fieldNamed fields name
  | .thing => none

mutual
def recordDepth : Value → Nat
  | .wrapped value => value.recordDepth
  | .record _ fields => recordDepthOf fields + 1
  | _ => 0

def recordDepthOf : List (String × Value) → Nat
  | [] => 0
  | row :: rest => max (recordDepthOfRow row) (recordDepthOf rest)

def recordDepthOfRow : String × Value → Nat
  | (_,value) => value.recordDepth
end

-- Members are found by number: by an ordinal itself or by a value equal to it.
def ordinalKey? : Value → Option Int
  | .float value => value.toInt?
  | value => value.toInt?

end Value
end NativeBinding
