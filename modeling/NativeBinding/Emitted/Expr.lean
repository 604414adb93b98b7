namespace NativeBinding

-- The expressions that emitted code is made of. A source expression is shown
-- as it stands, whatever text it is; everything else is built around it.
inductive Expr
  | source (text : String)
  | number (value : Nat)
  | member (owner : Expr) (name : String)
  | call (callee : Expr) (arguments : List Expr)
  | flag (condition : Expr)
  | nonzero (value : Expr)

namespace Expr

mutual
def text : Expr → String
  | .source text => text
  | .number value => toString value
  | .member owner name => owner.text ++ "." ++ name
  | .call callee arguments => callee.text ++ "(" ++ ", ".intercalate (texts arguments) ++ ")"
  | .flag condition => "(1 if " ++ condition.text ++ " else 0)"
  | .nonzero value => "(" ++ value.text ++ " != 0)"

def texts : List Expr → List String
  | [] => []
  | argument :: rest => argument.text :: texts rest
end

mutual
def names : Expr → List String
  | .source text => [text]
  | .number _ => []
  | .member owner _ => owner.names
  | .call callee arguments => callee.names ++ namesOf arguments
  | .flag condition => condition.names
  | .nonzero value => value.names

def namesOf : List Expr → List String
  | [] => []
  | argument :: rest => argument.names ++ namesOf rest
end

def apply (callee : String) (arguments : List Expr) : Expr := .call (.source callee) arguments

def method (owner : Expr) (name : String) (arguments : List Expr) : Expr :=
  .call (.member owner name) arguments

theorem namesOf_eq_flatMap (arguments : List Expr) : namesOf arguments = arguments.flatMap names := by
  induction arguments with
  | nil => rfl
  | cons argument rest ih => simp [namesOf,ih]

end Expr
end NativeBinding
