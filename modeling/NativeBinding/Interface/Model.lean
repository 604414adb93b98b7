import NativeBinding.Interface.TypeRef

namespace NativeBinding

-- The order of the values is their encoding: the first one has ordinal 1.
structure Enumeration where
  name : String
  values : List String
deriving DecidableEq,Repr

structure Field where
  name : String
  type : TypeRef
deriving DecidableEq,Repr

structure Record where
  name : String
  fields : List Field
deriving DecidableEq,Repr

structure Function where
  name : String
  arguments : List Field
  returns : Option TypeRef
deriving DecidableEq,Repr

-- Names in a model are arbitrary texts, possibly empty or repeated; what the
-- definition reader guarantees about them is stated with it, not here.
structure Model where
  component : String
  enumerations : List Enumeration
  records : List Record
  functions : List Function
  objects : List String
deriving DecidableEq,Repr

structure ForeignFunction where
  symbol : String
  arguments : List Field
  returns : Option TypeRef
deriving DecidableEq,Repr

namespace Model

def symbol (model : Model) (name : String) : String := model.component ++ "_" ++ name

def allocSymbol (model : Model) : String := model.symbol "bytebuffer_alloc"
def freeSymbol (model : Model) : String := model.symbol "bytebuffer_free"

def foreignFunction (model : Model) (function : Function) : ForeignFunction :=
  ⟨model.symbol function.name,function.arguments,function.returns⟩

def foreignAlloc (model : Model) : ForeignFunction :=
  ⟨model.allocSymbol,[⟨"size",.ofPlain .u32⟩],some (.ofPlain .bytes)⟩

def foreignFree (model : Model) : ForeignFunction :=
  ⟨model.freeSymbol,[⟨"buf",.ofPlain .bytes⟩],none⟩

def foreignFunctions (model : Model) : List ForeignFunction :=
  model.foreignAlloc :: model.foreignFree :: model.functions.map model.foreignFunction

-- A later definition of a name replaces an earlier one.
def enumeration? (model : Model) (name : String) : Option Enumeration :=
  model.enumerations.reverse.find? (fun item => item.name == name)

def record? (model : Model) (name : String) : Option Record :=
  model.records.reverse.find? (fun item => item.name == name)

def function? (model : Model) (name : String) : Option Function :=
  model.functions.reverse.find? (fun item => item.name == name)

end Model
end NativeBinding
