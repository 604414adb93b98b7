import NativeBinding.Script.Operate
import NativeBinding.Wire.Word

namespace NativeBinding.Script
open Wire

structure LayoutItem where
  code : Char
  count : Nat
deriving DecidableEq,Repr

-- A format in native layout aligns its items; all others put the most or the least
-- significant byte first.
structure Layout where
  native : Bool
  bigEndian : Bool
  items : List LayoutItem
deriving DecidableEq,Repr

namespace Layout

def width? (native : Bool) (code : Char) : Option Nat :=
  match code with
  | 'x' => some 1
  | 'c' => some 1
  | 'b' => some 1
  | 'B' => some 1
  | '?' => some 1
  | 's' => some 1
  | 'p' => some 1
  | 'h' => some 2
  | 'H' => some 2
  | 'e' => some 2
  | 'i' => some 4
  | 'I' => some 4
  | 'f' => some 4
  | 'l' => some (if native then 8 else 4)
  | 'L' => some (if native then 8 else 4)
  | 'q' => some 8
  | 'Q' => some 8
  | 'd' => some 8
  | 'n' => if native then some 8 else none
  | 'N' => if native then some 8 else none
  | 'P' => if native then some 8 else none
  | _ => none

def isBlank (c : Char) : Bool := c == ' ' || ('\t' ≤ c && c ≤ '\r')

def decimal (digits : List Char) : Nat :=
  digits.foldl (fun value c => value * 10 + (c.toNat - '0'.toNat)) 0

def readItems (native : Bool) : Nat → List Char → Option (List LayoutItem)
  | 0,_ => none
  | _ + 1,[] => some []
  | fuel + 1,c :: rest =>
    if isBlank c then readItems native fuel rest
    else
      let digits := (c :: rest).takeWhile Char.isDigit
      match (c :: rest).drop digits.length with
      | [] => none
      | code :: after =>
        if (width? native code).isNone then none
        else (readItems native fuel after).map (⟨code,if digits.isEmpty then 1 else decimal digits⟩ :: ·)

def ofText (text : String) : Option Layout :=
  let cs := text.toList
  let (native,bigEndian,body) := match cs with
    | '@' :: rest => (true,false,rest)
    | '=' :: rest => (false,false,rest)
    | '<' :: rest => (false,false,rest)
    | '>' :: rest => (false,true,rest)
    | '!' :: rest => (false,true,rest)
    | rest => (true,false,rest)
  (readItems native (body.length + 1) body).map (fun items => ⟨native,bigEndian,items⟩)

def aligned (native : Bool) (offset width : Nat) : Nat :=
  if native then (offset + width - 1) / width * width else offset

def places (layout : Layout) : Nat → List LayoutItem → List (Nat × LayoutItem) × Nat
  | offset,[] => ([],offset)
  | offset,item :: rest =>
    let width := (width? layout.native item.code).getD 1
    let start := aligned layout.native offset width
    let (others,behind) := places layout (start + item.count * width) rest
    ((start,item) :: others,behind)

def size (layout : Layout) : Nat := (layout.places 0 layout.items).2

def values (layout : Layout) : List (Nat × LayoutItem) :=
  (layout.places 0 layout.items).1.flatMap (fun row =>
    let width := (width? layout.native row.2.code).getD 1
    if row.2.code == 'x' then []
    else if row.2.code == 's' || row.2.code == 'p' then [row]
    else (List.range row.2.count).map (fun index => (row.1 + index * width,⟨row.2.code,1⟩)))

def largest : Nat := 0x7fffffffffffffff

def unpackable (text : String) : Run α := Run.fail .packing text

def ofObject (object : Obj) : Run Layout := do
  let text ← match object with
    | .text text =>
      if text.toList.all (fun c => c.toNat < 128) then pure text
      else Run.fail .encoding "ordinal not in range(128)"
    | .bytes content => pure (String.ofList (content.map (fun byte => Char.ofNat byte.toNat)))
    | _ => Obj.unfit "Struct() argument 1 must be a str or bytes object"
  match ofText text with
  | some layout => if largest < layout.size then unpackable "total struct size too long" else return layout
  | none => unpackable "bad char in struct format"

def inOrder (layout : Layout) (bytes : List UInt8) : List UInt8 :=
  if layout.bigEndian then bytes else bytes.reverse

def isSigned (code : Char) : Bool := ['b','h','i','l','q','n'].contains code

-- The bytes of a whole number. One that is too large for the widest items has already
-- left its low bytes behind when it is refused.
def wholeBytes (layout : Layout) (code : Char) (value : Obj) : Run (List UInt8) := do
  let width := (width? layout.native code).getD 1
  match ← value.number? with
  | none => unpackable "required argument is not an integer"
  | some number =>
    let least : Int := if isSigned code then -(capacity width / 2 : Nat) else 0
    let behind : Int := if isSigned code then (capacity width / 2 : Nat) else capacity width
    if least ≤ number && number < behind then return layout.inOrder (wordBytes width (signedWord width number))
    else unpackable "argument out of range"

def doubleOf (call : Caller) (value : Obj) : Run Double := do
  match ← Obj.own? call value "__float__" with
  | some method =>
    let result ← Run.rescue (call method [] []) (fun _ => unpackable "required argument is not a float")
    match result with
    | .float double => return double
    | _ => unpackable "required argument is not a float"
  | none =>
    match ← value.quantity? with
    | some (.broken double) => return double
    | some (.whole number) =>
      match Double.ofInt number with
      | some double => return double
      | none => unpackable "required argument is not a float"
    | none => unpackable "required argument is not a float"

def valueBytes (call : Caller) (layout : Layout) (item : LayoutItem) (value : Obj) : Run (List UInt8) := do
  match item.code with
  | 's' =>
    match value with
    | .zeros count => return List.replicate (min count item.count) 0
    | value =>
      match ← value.bytes? with
      | some content => return content.take item.count
      | none => unpackable "argument for 's' must be a bytes object"
  | 'p' =>
    match ← value.bytes? with
    | some content =>
      let kept := content.take (min (item.count - 1) 255)
      return if item.count = 0 then [] else UInt8.ofNat kept.length :: kept
    | none => unpackable "argument for 'p' must be a bytes object"
  | 'c' =>
    match ← value.bytes? with
    | some [byte] => return [byte]
    | _ => unpackable "char format requires a bytes object of length 1"
  | '?' => return [if ← Obj.truth call value then 1 else 0]
  | 'd' =>
    let double ← doubleOf call value
    return layout.inOrder (wordBytes 8 double.pattern)
  | 'f' =>
    let double ← doubleOf call value
    match double.narrow with
    | some pattern => return layout.inOrder (wordBytes 4 pattern)
    | none =>
      match value with
      | .float _ => Run.fail .overflow "float too large to pack with f format"
      | _ => unpackable "required argument is not a float"
  | 'e' => unpackable "required argument is not a float"
  | code => layout.wholeBytes code value

def remains (layout : Layout) (item : LayoutItem) (value : Obj) : Run (List UInt8) := do
  match !layout.native && (item.code == 'Q' || item.code == 'q'),← value.number? with
  | true,some number =>
    if number < 0 && item.code == 'Q' then return []
    else return layout.inOrder (wordBytes 8 (signedWord 8 number))
  | _,_ => return []

def wholeValue (layout : Layout) (code : Char) (bytes : List UInt8) : Obj :=
  let value := wordValue (layout.inOrder bytes)
  if isSigned code then .int (signedValue bytes.length value) else .int value

def valueAt (layout : Layout) (data : List UInt8) (offset : Nat) (item : LayoutItem) : Obj :=
  let width := (width? layout.native item.code).getD 1
  let bytes := (data.drop offset).take width
  match item.code with
  | 's' => .bytes ((data.drop offset).take item.count)
  | 'c' => .bytes bytes
  | '?' => .bool (bytes != [0])
  | 'd' => .float (.ofPattern (wordValue (layout.inOrder bytes)))
  | 'f' => .float (.widen (wordValue (layout.inOrder bytes)))
  | code => layout.wholeValue code bytes

end Layout
end NativeBinding.Script
