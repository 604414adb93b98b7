import NativeBinding.Text.Blank
import NativeBinding.Text.Decomposition

namespace NativeBinding.Text

-- The one spelling of a name that stands for all its compatible spellings:
-- everything is taken apart, marks are put in order, and what can be put together
-- again is.

def hexValue (digits : List Char) : Nat :=
  digits.foldl (fun value c =>
    value * 16 + (if '0' ≤ c && c ≤ '9' then c.toNat - '0'.toNat else c.toNat - 'a'.toNat + 10)) 0

def tableEntries (rows : List String) : List (List Char) :=
  rows.flatMap (fun row =>
    (pieces (fun c => c == ' ') row.toList).map (fun entry =>
      (pieces (fun c => c == '-') entry).map (fun digits => Char.ofNat (hexValue digits))))

def decompositions : List (Char × List Char) :=
  (tableEntries decompositionRows).filterMap (fun entry =>
    match entry with
    | [] => none
    | whole :: parts => some (whole,parts))

def compositions : List ((Char × Char) × Char) :=
  (tableEntries compositionRows).filterMap (fun entry =>
    match entry with
    | [whole,first,second] => some ((first,second),whole)
    | _ => none)

def firstSpecial : Nat := 0xAA

def syllableBase : Nat := 0xAC00
def leadBase : Nat := 0x1100
def vowelBase : Nat := 0x1161
def trailBase : Nat := 0x11A7
def leadCount : Nat := 19
def vowelCount : Nat := 21
def trailCount : Nat := 28

def syllableParts (n : Nat) : List Char :=
  let lead := Char.ofNat (leadBase + n / (vowelCount * trailCount))
  let vowel := Char.ofNat (vowelBase + n / trailCount % vowelCount)
  if n % trailCount = 0 then [lead,vowel]
  else [lead,vowel,Char.ofNat (trailBase + n % trailCount)]

def takenApart (c : Char) : List Char :=
  if c.toNat < firstSpecial then [c]
  else if syllableBase ≤ c.toNat && c.toNat < syllableBase + leadCount * vowelCount * trailCount then
    syllableParts (c.toNat - syllableBase)
  else (decompositions.lookup c).getD [c]

def markClassIn : List (Nat × Nat × Nat) → Nat → Nat
  | [],_ => 0
  | (first,behind,cls) :: rest,n =>
    if n < first then 0 else if n < behind then cls else markClassIn rest n

def markClass (c : Char) : Nat := if c.toNat < firstSpecial then 0 else markClassIn markRuns c.toNat

def orderMarks (marks : List Char) : List Char → List Char
  | [] => inOrder marks
  | c :: rest =>
    if markClass c = 0 then inOrder marks ++ c :: orderMarks [] rest
    else orderMarks (marks ++ [c]) rest
where
  inOrder (marks : List Char) : List Char := marks.mergeSort (fun a b => markClass a ≤ markClass b)

def syllableOf? (first second : Nat) : Option Char :=
  if leadBase ≤ first && first < leadBase + leadCount && vowelBase ≤ second &&
      second < vowelBase + vowelCount then
    some (Char.ofNat (syllableBase + ((first - leadBase) * vowelCount + (second - vowelBase)) * trailCount))
  else if syllableBase ≤ first && first < syllableBase + leadCount * vowelCount * trailCount &&
      (first - syllableBase) % trailCount = 0 && trailBase < second && second < trailBase + trailCount then
    some (Char.ofNat (first + (second - trailBase)))
  else none

def together? (first second : Char) : Option Char :=
  if second.toNat < firstSpecial then none
  else (syllableOf? first.toNat second.toNat).or (compositions.lookup (first,second))

def putTogether (letter : Option Char) (marks : List Char) : List Char → List Char
  | [] => letter.toList ++ marks
  | c :: rest =>
    match letter with
    | none => if markClass c = 0 then putTogether (some c) [] rest else c :: putTogether none [] rest
    | some first =>
      let blocked := match marks.getLast? with
        | none => false
        | some last => markClass c ≤ markClass last
      match (if blocked then none else together? first c) with
      | some whole => putTogether (some whole) marks rest
      | none =>
        if markClass c = 0 then first :: marks ++ putTogether (some c) [] rest
        else putTogether (some first) (marks ++ [c]) rest

def isPlain (text : List Char) : Bool := text.all (fun c => c.toNat < firstSpecial)

def normalChars (text : List Char) : List Char :=
  if isPlain text then text
  else putTogether none [] (orderMarks [] (text.flatMap takenApart))

def normal (text : String) : String := String.ofList (normalChars text.toList)

end NativeBinding.Text
