import NativeBinding.Script.Lookup
import NativeBinding.Wire.Arithmetic

namespace NativeBinding.Script
open Wire

def Relation.special : Relation → String
  | .less => "__lt__"
  | .atMost => "__le__"
  | .greater => "__gt__"
  | .atLeast => "__ge__"
  | .unequal => "__ne__"
  | _ => "__eq__"

def Relation.turned : Relation → Relation
  | .less => .greater
  | .atMost => .atLeast
  | .greater => .less
  | .atLeast => .atMost
  | other => other

def Relation.holds (relation : Relation) (order : Option Ordering) : Bool :=
  match relation,order with
  | .less,some order => order == .lt
  | .atMost,some order => order != .gt
  | .greater,some order => order == .gt
  | .atLeast,some order => order != .lt
  | .equal,some order => order == .eq
  | .unequal,some order => order != .eq
  | .unequal,none => true
  | _,_ => false

inductive Quantity
  | whole (value : Int)
  | broken (value : Double)

namespace Quantity

def order? : Quantity → Quantity → Option Ordering
  | .whole a,.whole b => some (compare a b)
  | .broken a,.broken b => a.order? b
  | .broken a,.whole b => a.orderTo? ⟨b,0⟩
  | .whole a,.broken b => (b.orderTo? ⟨a,0⟩).map Ordering.swap

def double (quantity : Quantity) : Run Double :=
  match quantity with
  | .broken value => return value
  | .whole value =>
    match Double.ofInt value with
    | some double => return double
    | none => Run.fail .overflow "int too large to convert to float"

def compute (operation : Operation) (a b : Quantity) : Run Obj :=
  match operation,a,b with
  | .add,.whole a,.whole b => return .int (a + b)
  | .subtract,.whole a,.whole b => return .int (a - b)
  | .multiply,.whole a,.whole b => return .int (a * b)
  | operation,a,b => do
    let left ← a.double
    let right ← b.double
    match operation with
    | .add => return .float (left.plus right)
    | .subtract => return .float (left.plus right.opposite)
    | .multiply => return .float (left.times right)

end Quantity

namespace Obj

def quantity? (object : Obj) : Run (Option Quantity) :=
  match object with
  | .float value => return some (.broken value)
  | object => do
    return (← object.number?).map Quantity.whole

def bytes? (object : Obj) : Run (Option (List UInt8)) :=
  match object with
  | .bytes value => return some value
  | .zeros count => return some (List.replicate count 0)
  | .place index => do
    match ← Run.cell? index with
    | some (.memory content) => return some content
    | _ => return none
  | _ => return none

def own? (call : Caller) (object : Obj) (name : String) : Run (Option Obj) :=
  match object with
  | .place _ => do
    let cls ← object.classOf
    match ← cls.find? name with
    | none => return none
    | some (.slot ..) => return none
    | some kept => return some (← taken call kept (some object) cls)
  | _ => return none

def unfit (text : String) : Run α := Run.fail .type text

def truth (call : Caller) (object : Obj) : Run Bool := do
  match object with
  | .nothing => return false
  | .bool value => return value
  | .int value => return value != 0
  | .float value => return !value.isZero
  | .text value => return !value.isEmpty
  | .bytes value => return !value.isEmpty
  | .zeros count => return count != 0
  | .tuple items => return !items.isEmpty
  | .pointer address => return address != 0
  | .array _ size => return size != 0
  | .place index =>
    match ← Run.cell? index with
    | some (.names names) => return !names.isEmpty
    | some (.list items) => return !items.isEmpty
    | some (.memory content) => return !content.isEmpty
    | some (.instance ..) =>
      match ← own? call object "__bool__" with
      | some test =>
        match ← call test [] [] with
        | .bool value => return value
        | _ => unfit "__bool__ should return bool"
      | none =>
        match ← object.number? with
        | some value => return value != 0
        | none => return true
    | _ => return true
  | _ => return true

def fieldNames (cls : ClassRef) : Run (List String) := do
  match ← cls.find? "__dataclass_fields__" with
  | some fields => return (← fields.namesAt).map Prod.fst
  | none => return []

def isRecord (object : Obj) : Run Bool := do
  let cls ← object.classOf
  let fields ← cls.find? "__dataclass_fields__"
  return fields.isSome

def deepest : Nat := 1000

mutual
-- Compares what needs no method of a script. Nothing comes out where the two do not
-- know each other.
def known? (call : Caller) (relation : Relation) : Nat → Obj → Obj → Run (Option Bool)
  | 0,_,_ => Run.fail .endless "maximum recursion depth exceeded in comparison"
  | fuel + 1,a,b => do
    match ← a.quantity?,← b.quantity? with
    | some x,some y => return some (relation.holds (x.order? y))
    | some _,none => return none
    | _,_ =>
      match a,b with
      | .text x,.text y => return some (relation.holds (some (compareOfLessAndEq x y)))
      | .tuple x,.tuple y =>
        if relation == .equal || relation == .unequal then do
          let same ← allEqual call fuel x y
          return some (same == (relation == .equal))
        else return none
      | _,_ =>
        match ← a.bytes?,← b.bytes? with
        | some x,some y => return some (relation.holds (some (compareOfLessAndEq x y)))
        | _,_ => return none

def side (call : Caller) (relation : Relation) : Nat → Obj → Obj → Run Obj
  | 0,_,_ => Run.fail .endless "maximum recursion depth exceeded in comparison"
  | fuel + 1,a,b => do
    let cls ← a.classOf
    match ← cls.find? relation.special with
    | some (.slot .recordMethods _) =>
      if cls == (← b.classOf) then do
        let names ← fieldNames cls
        let left ← memberOfEach call a names
        let right ← memberOfEach call b names
        return .bool (← allEqual call fuel left right)
      else return .unsupported
    | some (.slot .object _) =>
      match relation with
      | .equal => return if a.isSame b then .bool true else .unsupported
      | .unequal =>
        match ← side call .equal fuel a b with
        | .unsupported => return .unsupported
        | result => return .bool !(← truth call result)
      | _ => return .unsupported
    | some (.slot ..) =>
      match ← known? call relation fuel a b with
      | some result => return .bool result
      | none => return .unsupported
    | some kept => call (← taken call kept (some a) cls) [b] []
    | none => return .unsupported

-- The side whose class is the more special one is asked first.
def compared (call : Caller) (relation : Relation) : Nat → Obj → Obj → Run Obj
  | 0,_,_ => Run.fail .endless "maximum recursion depth exceeded in comparison"
  | fuel + 1,a,b => do
    let left ← a.classOf
    let right ← b.classOf
    let turned := left != right && (← right.inherits left)
    let early ← if turned then side call relation.turned fuel b a else pure .unsupported
    match early with
    | .unsupported =>
      match ← side call relation fuel a b with
      | .unsupported => do
        let late ← if turned then pure .unsupported else side call relation.turned fuel b a
        match late with
        | .unsupported =>
          match relation with
          | .equal => return .bool (a.isSame b)
          | .unequal => return .bool !(a.isSame b)
          | _ => unfit "not supported between these objects"
        | result => return result
      | result => return result
    | result => return result

def allEqual (call : Caller) : Nat → List Obj → List Obj → Run Bool
  | 0,_,_ => Run.fail .endless "maximum recursion depth exceeded in comparison"
  | _ + 1,[],[] => return true
  | fuel + 1,x :: xs,y :: ys => do
    let same ← if x.isSame y then pure true else do
      let result ← compared call .equal fuel x y
      truth call result
    if same then allEqual call fuel xs ys else return false
  | _ + 1,_,_ => return false

def memberOfEach (call : Caller) (object : Obj) : List String → Run (List Obj)
  | [] => return []
  | name :: rest => do
    let value ← member call object name
    let others ← memberOfEach call object rest
    return value :: others
end

def isEqual (call : Caller) (a b : Obj) : Run Bool := do
  truth call (← compared call .equal deepest a b)

def membersOf (cls : ClassRef) : Run (List Obj) := do
  let names ← match ← cls.find? "_member_names_" with
    | some (.place index) => do
      match ← Run.cell? index with
      | some (.list items) => pure items
      | _ => pure []
    | _ => pure []
  let map ← memberMap cls
  return names.filterMap (fun name =>
    match name with
    | .text label => map.lookup label
    | _ => none)

def isEnumeration (object : Obj) : Run Bool := do
  return (← object.asClass?).isSome && (← object.isKind .enumType)

def items (call : Caller) (object : Obj) : Run (List Obj) := do
  match object with
  | .tuple items => return items
  | .text value => return value.toList.map (fun c => .text (String.singleton c))
  | .place index =>
    match ← Run.cell? index with
    | some (.list items) => return items
    | some (.names names) => return names.map (fun row => .text row.1)
    | some (.memory content) => return content.map (fun byte => .int byte.toNat)
    | some (.class _) =>
      if ← object.isEnumeration then membersOf (.made index) else unfit "not iterable"
    | some (.instance ..) =>
      match ← own? call object "__iter__" with
      | some iteration => do
        let _ ← call iteration [] []
        unfit "no iterator"
      | none => unfit "not iterable"
    | _ => unfit "not iterable"
  | object =>
    match ← object.bytes? with
    | some content => return content.map (fun byte => .int byte.toNat)
    | none => unfit "not iterable"

def length (call : Caller) (object : Obj) : Run Obj := do
  match object with
  | .text value => return .int value.length
  | .bytes value => return .int value.length
  | .zeros count => return .int count
  | .tuple items => return .int items.length
  | .array _ size => return .int size
  | .place index =>
    match ← Run.cell? index with
    | some (.list items) => return .int items.length
    | some (.names names) => return .int names.length
    | some (.memory content) => return .int content.length
    | some (.class _) =>
      if ← object.isEnumeration then return .int (← membersOf (.made index)).length else unfit "no length"
    | some (.instance ..) =>
      match ← own? call object "__len__" with
      | some measure => do
        let _ ← call measure [] []
        unfit "no length"
      | none => unfit "no length"
    | _ => unfit "no length"
  | _ => unfit "no length"

def isWithin (call : Caller) (part whole : Obj) : Run Bool := do
  match whole with
  | .text value =>
    match part with
    | .text inner => return inner.isEmpty || (value.splitOn inner).length > 1
    | _ => unfit "'in <string>' requires string as left operand"
  | .place _ =>
    match ← own? call whole "__contains__" with
    | some test => truth call (← call test [part] [])
    | none => search (← items call whole)
  | .tuple items => search items
  | whole =>
    match ← whole.bytes?,← part.number?,← part.bytes? with
    | some content,some value,_ =>
      if 0 ≤ value && value < 256 then return content.contains (UInt8.ofNat value.toNat)
      else Run.fail .value "byte must be in range(0, 256)"
    | some content,none,some inner =>
      return (List.range (content.length + 1)).any (fun start => inner.isPrefixOf (content.drop start))
    | _,_,_ => unfit "not iterable"
where
  search : List Obj → Run Bool
    | [] => return false
    | first :: rest => do
      let same ← if first.isSame part then pure true else isEqual call first part
      if same then return true else search rest

def listAt? (object : Obj) : Run (Option (List Obj)) :=
  match object with
  | .place index => do
    match ← Run.cell? index with
    | some (.list items) => return some items
    | _ => return none
  | _ => return none

def repeated (count : Int) (items : List α) : List α := (List.replicate count.toNat items).flatten

def knownResult? (operation : Operation) (a b : Obj) : Run (Option Obj) := do
  match ← a.quantity?,← b.quantity? with
  | some x,some y => return some (← Quantity.compute operation x y)
  | _,_ =>
    match operation,a,b with
    | .add,.text x,.text y => return some (.text (x ++ y))
    | .add,.tuple x,.tuple y => return some (.tuple (x ++ y))
    | .add,_,_ =>
      match ← a.bytes?,← b.bytes?,← a.listAt?,← b.listAt? with
      | some x,some y,_,_ => return some (.bytes (x ++ y))
      | _,_,some x,some y => return some (.place (← Run.keep (.list (x ++ y))))
      | _,_,_,_ => return none
    | .multiply,.type .simple,_ =>
      match ← b.number? with
      | none => return none
      | some count =>
        if count < 0 then Run.fail .value "Array length must be >= 0"
        else if 0x7fffffffffffffff < count then Run.fail .overflow "cannot fit 'int' into an index-sized integer"
        else return some (.arrayType count.toNat)
    | .multiply,.text x,_ =>
      match ← b.number? with
      | some count => return some (.text (String.ofList (repeated count x.toList)))
      | none => return none
    | .multiply,_,_ =>
      match ← a.bytes?,← b.number? with
      | some x,some count => return some (.bytes (repeated count x))
      | _,_ => return none
    | _,_,_ => return none

def operationName : Operation → String
  | .add => "add__"
  | .subtract => "sub__"
  | .multiply => "mul__"

-- Methods of a script come before what is known, those of the more special class
-- first.
def computed (call : Caller) (operation : Operation) (a b : Obj) : Run Obj := do
  let left ← a.classOf
  let right ← b.classOf
  let turned := left != right && (← right.inherits left)
  let late ← own? call b ("__r" ++ operationName operation)
  let early ← match turned,late with
    | true,some method => call method [a] []
    | _,_ => pure .unsupported
  match early with
  | .unsupported =>
    let first ← match ← own? call a ("__" ++ operationName operation) with
      | some method => call method [b] []
      | none => do pure ((← knownResult? operation a b).getD .unsupported)
    match first,turned,late with
    | .unsupported,false,some method =>
      match ← call method [a] [] with
      | .unsupported => unfit "unsupported operand types"
      | result => return result
    | .unsupported,_,_ => unfit "unsupported operand types"
    | result,_,_ => return result
  | result => return result

def negated (object : Obj) : Run Obj := do
  match ← object.quantity? with
  | some (.whole value) => return .int (-value)
  | some (.broken value) => return .float value.opposite
  | none => unfit "bad operand type for unary -"

def related (call : Caller) (relation : Relation) (a b : Obj) : Run Obj := do
  match relation with
  | .within => return .bool (← isWithin call a b)
  | .without => return .bool !(← isWithin call a b)
  | .same => return .bool (a.isSame b)
  | .distinct => return .bool !(a.isSame b)
  | relation => compared call relation deepest a b

def hashed (call : Caller) : Nat → Obj → Run PUnit
  | 0,_ => Run.fail .endless "maximum recursion depth exceeded"
  | fuel + 1,object => do
    match object with
    | .tuple items => for item in items do hashed call fuel item
    | object =>
      let cls ← object.classOf
      match ← cls.find? "__hash__" with
      | some .nothing => unfit "unhashable type"
      | some (.slot .recordMethods _) => do
        let values ← memberOfEach call object (← fieldNames cls)
        for value in values do hashed call fuel value
      | some (.slot ..) => return ()
      | some kept => do
        let _ ← call (← taken call kept (some object) cls) [] []
        return ()
      | none => return ()

-- The largest memory that anything asks for and gets.
def plenty : Int := 0x800000000

def toBytes (call : Caller) (object : Obj) : Run Obj := do
  match ← own? call object "__bytes__" with
  | some method =>
    let made ← call method [] []
    if (← made.classOf) == .base .bytes then return made else unfit "__bytes__ returned non-bytes"
  | none =>
    match object with
    | .bytes _ => return object
    | .zeros _ => return object
    | .text _ => unfit "string argument without an encoding"
    | object =>
      match ← object.number? with
      | some count =>
        if count < -0x8000000000000000 || 0x7fffffffffffffff < count then
          Run.fail .overflow "cannot fit 'int' into an index-sized integer"
        else if count < 0 then Run.fail .value "negative count"
        else if 0x7fffffffffffffff - 33 < count then Run.fail .overflow "byte string is too large"
        else if plenty ≤ count then Run.fail .memory ""
        else return .zeros count.toNat
      | none =>
        match ← object.bytes? with
        | some content => return .bytes content
        | none => do
          let found ← items call object
          let content ← found.mapM (fun item => do
            match ← item.number? with
            | some value =>
              if 0 ≤ value && value < 256 then return UInt8.ofNat value.toNat
              else Run.fail .value "bytes must be in range(0, 256)"
            | none => unfit "cannot be interpreted as an integer")
          return .bytes content

end Obj
end NativeBinding.Script
