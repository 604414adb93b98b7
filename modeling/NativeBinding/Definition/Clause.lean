import NativeBinding.Definition.Scan
import NativeBinding.Interface.TypeRef

namespace NativeBinding.Definition
open Text

structure Block where
  kind : Named
  name : List Char
  body : List Char
deriving DecidableEq,Repr

structure Signature where
  name : List Char
  parameters : List Char
  returns : Option (List Char)
deriving DecidableEq,Repr

def componentClause : Recogniser (List Char) := fun text => do
  let rest ← exactly "namespace".toList text
  let rest ← blanks rest
  let (name,rest) ← word rest
  let rest ← exactly [';'] (dropBlank rest)
  return (name,rest)

def blockKinds : List (List Char × Named) :=
  [("enum".toList,.enumeration),("record".toList,.record),("object".toList,.object)]

def blockKind (text : List Char) : Option (Named × List Char) :=
  blockKinds.findSome? (fun row => (exactly row.1 text).map (fun rest => (row.2,rest)))

-- The closing semicolon may be missing; blanks in front of it belong to the
-- block in either case.
def blockEnd (text : List Char) : List Char :=
  let rest := dropBlank text
  (exactly [';'] rest).getD rest

def blockClause : Recogniser Block := fun text => do
  let (kind,rest) ← blockKind text
  let rest ← blanks rest
  let (name,rest) ← word rest
  let rest ← exactly ['\x7b'] (dropBlank rest)
  let (body,rest) ← upTo '\x7d' rest
  return (⟨kind,name,body⟩,blockEnd rest)

def isTypeText (c : Char) : Bool := isWord c || c == '?'

def resultClause (text : List Char) : Option (Option (List Char) × List Char) :=
  match exactly "->".toList text with
  | none => some (none,text)
  | some rest => do
    let (type,rest) ← run isTypeText (dropBlank rest)
    return (some type,dropBlank rest)

def functionClause : Recogniser Signature := fun text => do
  let rest ← exactly "fn".toList text
  let rest ← blanks rest
  let (name,rest) ← word rest
  let rest ← exactly ['('] (dropBlank rest)
  let (parameters,rest) ← upTo ')' rest
  let (returns,rest) ← resultClause (dropBlank rest)
  let rest ← exactly [';'] rest
  return (⟨name,parameters,returns⟩,rest)

end NativeBinding.Definition
