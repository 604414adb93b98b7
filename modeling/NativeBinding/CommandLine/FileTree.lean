import NativeBinding.CommandLine.Path
import NativeBinding.Text.Quoted
import NativeBinding.Text.Utf8

namespace NativeBinding.CommandLine

inductive FileProblem
  | notFound | exists | notDirectory | isDirectory | nameTooLong | zeroCharacter
deriving DecidableEq,Repr

-- The number and the text that the system has for a problem. A zero character
-- never reaches the system.
def FileProblem.report : FileProblem → Option (Nat × String)
  | .notFound => some (2,"No such file or directory")
  | .exists => some (17,"File exists")
  | .notDirectory => some (20,"Not a directory")
  | .isDirectory => some (21,"Is a directory")
  | .nameTooLong => some (36,"File name too long")
  | .zeroCharacter => none

def FileProblem.message (problem : FileProblem) (path : Path) : Option String :=
  problem.report.map (fun (number,text) =>
    "[Errno " ++ toString number ++ "] " ++ text ++ ": " ++ Text.quote path.text)

inductive Base
  | root
  | above (levels : Nat)
deriving DecidableEq,Repr

structure Location where
  base : Base
  names : List String
deriving DecidableEq,Repr

-- Files that hold no text, and what reading one of them leads to, are not described.
inductive Node
  | directory
  | file (text : String)
deriving DecidableEq,Repr

-- What is known of a file system. Of the directories above the working one it
-- knows only that they exist; nothing else is taken to be in them.
structure FileTree where
  entries : List (Location × Node)
deriving DecidableEq,Repr

namespace Location

def working : Location := ⟨.above 0,[]⟩

def child (location : Location) (name : String) : Location :=
  ⟨location.base,location.names ++ [name]⟩

def parent (location : Location) : Location :=
  match location.names,location.base with
  | [],.root => location
  | [],.above levels => ⟨.above (levels + 1),[]⟩
  | names,base => ⟨base,names.dropLast⟩

def step (location : Location) (name : String) : Location :=
  if name == ".." then location.parent else location.child name

def start (path : Path) : Location :=
  match path.anchor with
  | .relative => working
  | _ => ⟨.root,[]⟩

end Location

namespace FileTree

def node? (tree : FileTree) (location : Location) : Option Node :=
  if location.names.isEmpty then some .directory else tree.entries.lookup location

def nameLimit : Nat := 255
def pathLimit : Nat := 4096

-- Goes down one name after the other. Every directory on the way has to exist,
-- but what the last name leads to does not.
def descend (tree : FileTree) (location : Location) : List String → Except FileProblem Location
  | [] => .ok location
  | name :: rest =>
    match tree.node? location with
    | none => .error .notFound
    | some (.file _) => .error .notDirectory
    | some .directory =>
      if nameLimit < (Text.Utf8.encode name).length then .error .nameTooLong
      else tree.descend (location.step name) rest

def locate (tree : FileTree) (path : Path) : Except FileProblem Location :=
  if path.text.toList.contains '\x00' then .error .zeroCharacter
  else if pathLimit ≤ (Text.Utf8.encode path.text).length then .error .nameTooLong
  else tree.descend (Location.start path) path.parts

def read (tree : FileTree) (path : Path) : Except FileProblem String := do
  let location ← tree.locate path
  match tree.node? location with
  | none => .error .notFound
  | some .directory => .error .isDirectory
  | some (.file text) => .ok text

def isDirectory (tree : FileTree) (path : Path) : Bool :=
  match tree.locate path with
  | .error _ => false
  | .ok location => tree.node? location == some .directory

def put (tree : FileTree) (location : Location) (node : Node) : FileTree :=
  if (tree.entries.lookup location).isSome then
    ⟨tree.entries.map (fun row => if row.1 == location then (location,node) else row)⟩
  else ⟨tree.entries ++ [(location,node)]⟩

def write (tree : FileTree) (path : Path) (text : String) : Except FileProblem FileTree := do
  let location ← tree.locate path
  match tree.node? location with
  | some .directory => .error .isDirectory
  | _ => .ok (tree.put location (.file text))

def makeDirectory (tree : FileTree) (path : Path) : Except FileProblem FileTree := do
  let location ← tree.locate path
  match tree.node? location with
  | some _ => .error .exists
  | none => .ok (tree.put location .directory)

def ensureLast (tree : FileTree) (path : Path) : Except FileProblem FileTree :=
  match tree.makeDirectory path with
  | .ok after => .ok after
  | .error .notFound => .error .notFound
  | .error problem => if tree.isDirectory path then .ok tree else .error problem

-- Makes a directory and the parents it lacks, the parts given from the last one
-- on. What was made before a failure stays.
def ensure (tree : FileTree) (anchor : Anchor) : List String → Except FileProblem Unit × FileTree
  | [] => (.ok (),tree)
  | name :: above =>
    let path : Path := ⟨anchor,(name :: above).reverse⟩
    match tree.makeDirectory path with
    | .ok after => (.ok (),after)
    | .error .notFound =>
      match tree.ensure anchor above with
      | (.error problem,after) => (.error problem,after)
      | (.ok _,after) =>
        match after.ensureLast path with
        | .ok last => (.ok (),last)
        | .error problem => (.error problem,after)
    | .error problem => if tree.isDirectory path then (.ok (),tree) else (.error problem,tree)

def ensureDirectory (tree : FileTree) (path : Path) : Except FileProblem Unit × FileTree :=
  tree.ensure path.anchor path.parts.reverse

def working (tree : FileTree) : List (List String × Node) :=
  tree.entries.filterMap (fun row =>
    if row.1.base = .above 0 then some (row.1.names,row.2) else none)

def ofFiles (files : List (String × String)) : FileTree :=
  files.foldl (fun tree file =>
    let path := Path.ofString file.1
    let (_,tree) := tree.ensure path.anchor path.parts.reverse.tail
    match tree.write path file.2 with
    | .ok after => after
    | .error _ => tree) ⟨[]⟩

end FileTree
end NativeBinding.CommandLine
