import NativeBinding.Definition.Scan

namespace NativeBinding.Definition
open Text

structure Stray where
  position : Nat
  text : List Char
deriving DecidableEq,Repr

def Span.before (a b : Span) : Bool := a.start < b.start || a.start == b.start && a.stop ≤ b.stop

def strayIn (gap : List Char) (position : Nat) : Option Stray :=
  match dropBlank gap with
  | [] => none
  | shown => some ⟨position + (gap.length - shown.length),shown.takeWhile (fun c => !isBlank c)⟩

-- Sweeps over spans in order. The position is the furthest end so far: all that
-- lies before it has been looked at.
def sweep (text : List Char) : Nat → List Span → Option Stray
  | position,[] => strayIn (text.drop position) position
  | position,span :: rest =>
    (strayIn ((text.drop position).take (span.start - position)) position).or
      (sweep text (max position span.stop) rest)

def stray? (text : List Char) (spans : List Span) : Option Stray :=
  sweep text 0 (spans.mergeSort Span.before)

end NativeBinding.Definition
