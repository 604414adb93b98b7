import NativeBinding.Text.Identifier
import NativeBinding.Text.Normal

namespace NativeBinding.Text

def keywords : List String :=
  ["False","None","True","and","as","assert","async","await","break","class","continue","def","del",
    "elif","else","except","finally","for","from","global","if","import","in","is","lambda","nonlocal",
    "not","or","pass","raise","return","try","while","with","yield"]

def isBindable (name : String) : Bool :=
  isIdentifier name.toList && !keywords.contains name && name != "__debug__"

def isReadable (name : String) : Bool :=
  isIdentifier name.toList && (!keywords.contains name || ["False","None","True"].contains name)

def startsWith (start : String) (name : String) : Bool := start.toList.isPrefixOf name.toList

def endsWith (ending : String) (name : String) : Bool := ending.toList.isSuffixOf name.toList

def isDunder (name : String) : Bool :=
  match name.toList with
  | '_' :: '_' :: c :: rest =>
    c != '_' && (match rest.reverse with
      | '_' :: '_' :: d :: _ => d != '_'
      | ['_','_'] => true
      | _ => false)
  | _ => false

def isSunder (name : String) : Bool :=
  match name.toList with
  | '_' :: c :: rest =>
    c != '_' && (match rest.reverse with
      | '_' :: d :: _ => d != '_'
      | ['_'] => true
      | _ => false)
  | _ => false

-- Inside a class a name with two underscores in front, but not behind, belongs to
-- the class alone: the name of the class is put in front of it.
def classPrivate (owner name : String) : String :=
  if startsWith "__" name && !endsWith "__" name then
    match owner.toList.dropWhile (fun c => c == '_') with
    | [] => name
    | stem => "_" ++ String.ofList stem ++ name
  else name

def isPrivateOf (owner name : String) : Bool :=
  let mark := "_" ++ owner ++ "__"
  startsWith mark name && mark.length < name.length && !endsWith "__" name

end NativeBinding.Text
