import NativeBinding.Wire.Binary

namespace NativeBinding.Script
open Wire

inductive Constant
  | none
  | flag (value : Bool)
  | ellipsis
  | int (value : Int)
  | float (value : Double)
  | text (value : String)
  | bytes (value : List UInt8)
deriving DecidableEq,Repr

inductive Operation
  | add | subtract | multiply
deriving DecidableEq,Repr

inductive Relation
  | less | atMost | greater | atLeast | equal | unequal | within | without | same | distinct
deriving DecidableEq,Repr

-- A formatted text is put together from texts and from terms whose values are shown
-- in it. A slice without an end has nothing in its place. An argument with a keyword
-- stands among the others.
inductive Term
  | constant (value : Constant)
  | name (id : String)
  | formatted (parts : List Term)
  | member (owner : Term) (name : String)
  | call (callee : Term) (arguments : List Term)
  | keyword (name : String) (value : Term)
  | item (owner index : Term)
  | slice (first last : Term)
  | tuple (items : List Term)
  | list (items : List Term)
  | negative (value : Term)
  | compute (operation : Operation) (left right : Term)
  | compare (left : Term) (relation : Relation) (right : Term)
  | both (left right : Term)
  | either (left right : Term)
  | negation (value : Term)
  | choice (test yes no : Term)

structure Parameter where
  name : String
  fallback : Option Term
  named : Bool

-- Annotations of parameters and results are never looked at. Those of variables are,
-- but only as far as they say that there is one.
inductive Statement
  | evaluate (value : Term)
  | assign (target value : Term)
  | extend (target value : Term)
  | annotate (target : Term) (typeText : String) (value : Option Term)
  | load (module : String)
  | loadFrom (module : String) (names : List String)
  | function (decorators : List Term) (name : String) (parameters : List Parameter) (body : List Statement)
  | class (decorators : List Term) (name : String) (bases : List Term) (body : List Statement)
  | branch (test : Term) (yes no : List Statement)
  | each (target source : Term) (body : List Statement)
  | attempt (body : List Statement) (caught : Option Term) (handler : List Statement)
  | within (manager : Term) (target : Option Term) (body : List Statement)
  | raise (raised : Option Term)
  | give (value : Option Term)
  | shared (names : List String)
  | pass

end NativeBinding.Script
