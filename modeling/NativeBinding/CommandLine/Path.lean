import NativeBinding.Text.Blank

namespace NativeBinding.CommandLine
open Text

-- Exactly two slashes in front are kept apart from one or more than two.
inductive Anchor
  | relative | root | doubleRoot
deriving DecidableEq,Repr

-- A path without empty components and single dots. Double dots stay: what they
-- lead to depends on the directories there are.
structure Path where
  anchor : Anchor
  parts : List String
deriving DecidableEq,Repr

namespace Path

def anchorOf (text : List Char) : Anchor :=
  match (text.takeWhile (fun c => c == '/')).length with
  | 0 => .relative
  | 2 => .doubleRoot
  | _ => .root

def ofString (text : String) : Path :=
  let parts := (pieces (fun c => c == '/') text.toList).filter
    (fun part => !part.isEmpty && part != ['.'])
  ⟨anchorOf text.toList,parts.map String.ofList⟩

def text (path : Path) : String :=
  let joined := "/".intercalate path.parts
  match path.anchor with
  | .relative => if path.parts.isEmpty then "." else joined
  | .root => "/" ++ joined
  | .doubleRoot => "//" ++ joined

def join (directory path : Path) : Path :=
  match path.anchor with
  | .relative => ⟨directory.anchor,directory.parts ++ path.parts⟩
  | _ => path

end Path
end NativeBinding.CommandLine
