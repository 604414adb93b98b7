import NativeBinding.Text.Blank
import NativeBinding.Text.Word

namespace NativeBinding.Definition
open Text

structure Span where
  start : Nat
  stop : Nat
deriving DecidableEq,Repr

structure Found (α : Type) where
  span : Span
  value : α
deriving DecidableEq,Repr

abbrev Recogniser (α : Type) := List Char → Option (α × List Char)

def exactly (word : List Char) (text : List Char) : Option (List Char) :=
  if word.isPrefixOf text then some (text.drop word.length) else none

def blanks (text : List Char) : Option (List Char) :=
  match text with
  | c :: _ => if isBlank c then some (dropBlank text) else none
  | [] => none

def run (inside : Char → Bool) : Recogniser (List Char) := fun text =>
  let taken := text.takeWhile inside
  if taken.isEmpty then none else some (taken,text.dropWhile inside)

def word : Recogniser (List Char) := run isWord

def upTo (close : Char) : Recogniser (List Char) := fun text =>
  match text.dropWhile (fun c => c != close) with
  | [] => none
  | _ :: rest => some (text.takeWhile (fun c => c != close),rest)

-- All matches from left to right. A match starts where no word character stands
-- in front of it, and the next one starts behind it at the earliest: the last
-- number counts the characters that still belong to the match before.
def scanFrom (recognise : Recogniser α) : Nat → Bool → Nat → List Char → List (Found α)
  | _,_,_,[] => []
  | position,_,inside + 1,c :: rest => scanFrom recognise (position + 1) (isWord c) inside rest
  | position,afterWord,0,c :: rest =>
    match if afterWord then none else recognise (c :: rest) with
    | none => scanFrom recognise (position + 1) (isWord c) 0 rest
    | some (value,left) =>
      let length := (c :: rest).length - left.length
      ⟨⟨position,position + length⟩,value⟩ ::
        scanFrom recognise (position + 1) (isWord c) (length - 1) rest

def scan (recognise : Recogniser α) (text : List Char) : List (Found α) :=
  scanFrom recognise 0 false 0 text

def lineAt (text : List Char) (position : Nat) : Nat := (text.take position).count '\n' + 1

end NativeBinding.Definition
