import NativeBinding.Definition.Body
import NativeBinding.Definition.Clause
import NativeBinding.Definition.Comment
import NativeBinding.Definition.Stray

namespace NativeBinding.Definition

-- What is found in a text without comments: the first component clause, all
-- blocks and all functions. The three scans know nothing of each other.
structure Layout where
  component : Found (List Char)
  blocks : List (Found Block)
  functions : List (Found Signature)
deriving DecidableEq,Repr

def Layout.spans (layout : Layout) : List Span :=
  layout.component.span :: layout.blocks.map Found.span ++ layout.functions.map Found.span

def layoutOf (text : List Char) : Except SyntaxError Layout :=
  match scan componentClause text with
  | [] => .error ⟨.missingComponent,none⟩
  | component :: _ => .ok ⟨component,scan blockClause text,scan functionClause text⟩

def checkStray (text : List Char) (spans : List Span) : Except SyntaxError Unit :=
  match stray? text spans with
  | none => .ok ()
  | some stray => .error ⟨.strayText (String.ofList stray.text),some (lineAt text stray.position)⟩

def atClause (text : List Char) (span : Span) (result : Except Complaint α) : Except SyntaxError α :=
  result.mapError (fun complaint => ⟨complaint,some (lineAt text span.start)⟩)

-- Names are collected before bodies are read, so that a body may refer to
-- definitions that follow it.
def kindsOf (text : List Char) (kinds : Kinds) : List (Found Block) → Except SyntaxError Kinds
  | [] => .ok kinds
  | block :: rest =>
    let name := String.ofList block.value.name
    if (kinds.find name).isSome || (plainWords.lookup name).isSome then
      .error ⟨.duplicateDefinition name,some (lineAt text block.span.start)⟩
    else kindsOf text (kinds ++ [(name,block.value.kind)]) rest

inductive Item
  | enumeration (enumeration : Enumeration)
  | record (record : Record)
  | object (name : String)
deriving DecidableEq,Repr

def itemOf (kinds : Kinds) (block : Block) : Except Complaint Item :=
  let name := String.ofList block.name
  match block.kind with
  | .enumeration => (enumerationOf name block.body).map Item.enumeration
  | .record => (recordOf kinds name block.body).map Item.record
  | .object => .ok (.object name)

def itemsOf (text : List Char) (kinds : Kinds) (blocks : List (Found Block)) :
    Except SyntaxError (List Item) :=
  blocks.mapM (fun block => atClause text block.span (itemOf kinds block.value))

def functionsOf (text : List Char) (kinds : Kinds) (signatures : List (Found Signature)) :
    Except SyntaxError (List Function) :=
  signatures.mapM (fun found => atClause text found.span
    (functionOf kinds (String.ofList found.value.name) found.value.parameters found.value.returns))

def repeatedFunction (functions : List Function) : Option String :=
  let names := functions.map Function.name
  names.find? (fun name => names.count name > 1)

def Item.enumeration? : Item → Option Enumeration
  | .enumeration found => some found
  | _ => none

def Item.record? : Item → Option Record
  | .record found => some found
  | _ => none

def Item.object? : Item → Option String
  | .object name => some name
  | _ => none

def readLayout (text : List Char) (layout : Layout) : Except SyntaxError Model := do
  let kinds ← kindsOf text [] layout.blocks
  let items ← itemsOf text kinds layout.blocks
  let functions ← functionsOf text kinds layout.functions
  match repeatedFunction functions with
  | some name => .error ⟨.duplicateFunction name,none⟩
  | none => return ⟨String.ofList layout.component.value,items.filterMap Item.enumeration?,
      items.filterMap Item.record?,functions,items.filterMap Item.object?⟩

def readChars (text : List Char) : Except SyntaxError Model := do
  let text := dropComments text
  let layout ← layoutOf text
  checkStray text layout.spans
  readLayout text layout

end NativeBinding.Definition

namespace NativeBinding

def Model.read (text : String) : Except SyntaxError Model := Definition.readChars text.toList

end NativeBinding
