import NativeBinding.Script.Term
import NativeBinding.Text.Name

namespace NativeBinding.Script

-- Inside a class names with two underscores in front belong to that class alone.
-- Keywords of arguments are left as they are.
namespace Term

mutual
def owned (owner : String) : Term → Term
  | .constant value => .constant value
  | .name id => .name (Text.classPrivate owner id)
  | .formatted parts => .formatted (allOwned owner parts)
  | .member object id => .member (object.owned owner) (Text.classPrivate owner id)
  | .call callee arguments => .call (callee.owned owner) (allOwned owner arguments)
  | .keyword id value => .keyword id (value.owned owner)
  | .item object index => .item (object.owned owner) (index.owned owner)
  | .slice first last => .slice (first.owned owner) (last.owned owner)
  | .tuple items => .tuple (allOwned owner items)
  | .list items => .list (allOwned owner items)
  | .negative value => .negative (value.owned owner)
  | .compute operation left right => .compute operation (left.owned owner) (right.owned owner)
  | .compare left relation right => .compare (left.owned owner) relation (right.owned owner)
  | .both left right => .both (left.owned owner) (right.owned owner)
  | .either left right => .either (left.owned owner) (right.owned owner)
  | .negation value => .negation (value.owned owner)
  | .choice test yes no => .choice (test.owned owner) (yes.owned owner) (no.owned owner)

def allOwned (owner : String) : List Term → List Term
  | [] => []
  | first :: rest => first.owned owner :: allOwned owner rest
end

def keywordsOf (arguments : List Term) : List String :=
  arguments.filterMap (fun argument =>
    match argument with
    | .keyword id _ => some id
    | _ => none)

def isGivable (name : String) : Bool := name != "__debug__"

def areDistinct : List String → Bool
  | [] => true
  | first :: rest => !rest.contains first && areDistinct rest

-- Whether a term can be read as one: no keyword comes twice.
mutual
def isSound : Term → Bool
  | .constant _ => true
  | .name _ => true
  | .formatted parts => areSound parts
  | .member owner _ => owner.isSound
  | .call callee arguments =>
    callee.isSound && areSound arguments && areDistinct (keywordsOf arguments) &&
      (keywordsOf arguments).all isGivable
  | .keyword _ value => value.isSound
  | .item owner index => owner.isSound && index.isSound
  | .slice first last => first.isSound && last.isSound
  | .tuple items => areSound items
  | .list items => areSound items
  | .negative value => value.isSound
  | .compute _ left right => left.isSound && right.isSound
  | .compare left _ right => left.isSound && right.isSound
  | .both left right => left.isSound && right.isSound
  | .either left right => left.isSound && right.isSound
  | .negation value => value.isSound
  | .choice test yes no => test.isSound && yes.isSound && no.isSound

def areSound : List Term → Bool
  | [] => true
  | first :: rest => first.isSound && areSound rest
end

mutual
def isSoundTarget : Term → Bool
  | .name id => isGivable id
  | .member owner id => owner.isSound && isGivable id
  | .item owner index => owner.isSound && index.isSound
  | .tuple items => areSoundTargets items
  | .list items => areSoundTargets items
  | _ => false

def areSoundTargets : List Term → Bool
  | [] => true
  | first :: rest => isSoundTarget first && areSoundTargets rest
end

mutual
def bound : Term → List String
  | .name id => [id]
  | .tuple items => allBound items
  | .list items => allBound items
  | _ => []

def allBound : List Term → List String
  | [] => []
  | first :: rest => bound first ++ allBound rest
end

mutual
def reads (name : String) : Term → Bool
  | .constant _ => false
  | .name id => id == name
  | .formatted parts => anyReads name parts
  | .member owner _ => owner.reads name
  | .call callee arguments => callee.reads name || anyReads name arguments
  | .keyword _ value => value.reads name
  | .item owner index => owner.reads name || index.reads name
  | .slice first last => first.reads name || last.reads name
  | .tuple items => anyReads name items
  | .list items => anyReads name items
  | .negative value => value.reads name
  | .compute _ left right => left.reads name || right.reads name
  | .compare left _ right => left.reads name || right.reads name
  | .both left right => left.reads name || right.reads name
  | .either left right => left.reads name || right.reads name
  | .negation value => value.reads name
  | .choice test yes no => test.reads name || yes.reads name || no.reads name

def anyReads (name : String) : List Term → Bool
  | [] => false
  | first :: rest => first.reads name || anyReads name rest
end

end Term

namespace Parameter

def owned (owner : String) (parameter : Parameter) : Parameter :=
  ⟨Text.classPrivate owner parameter.name,parameter.fallback.map (Term.owned owner),parameter.named⟩

end Parameter

namespace Statement

mutual
def owned (owner : String) : Statement → Statement
  | .evaluate value => .evaluate (value.owned owner)
  | .assign target value => .assign (target.owned owner) (value.owned owner)
  | .extend target value => .extend (target.owned owner) (value.owned owner)
  | .annotate target typeText value =>
    .annotate (target.owned owner) typeText (value.map (Term.owned owner))
  | .load module => .load module
  | .loadFrom module names => .loadFrom module names
  | .function decorators name parameters body =>
    .function (Term.allOwned owner decorators) (Text.classPrivate owner name)
      (parameters.map (Parameter.owned owner)) (allOwned owner body)
  | .class decorators name bases body =>
    .class (Term.allOwned owner decorators) (Text.classPrivate owner name) (Term.allOwned owner bases) body
  | .branch test yes no => .branch (test.owned owner) (allOwned owner yes) (allOwned owner no)
  | .each target source body => .each (target.owned owner) (source.owned owner) (allOwned owner body)
  | .attempt body caught handler =>
    .attempt (allOwned owner body) (caught.map (Term.owned owner)) (allOwned owner handler)
  | .within manager target body =>
    .within (manager.owned owner) (target.map (Term.owned owner)) (allOwned owner body)
  | .raise raised => .raise (raised.map (Term.owned owner))
  | .give value => .give (value.map (Term.owned owner))
  | .shared names => .shared (names.map (Text.classPrivate owner))
  | .pass => .pass

def allOwned (owner : String) : List Statement → List Statement
  | [] => []
  | first :: rest => first.owned owner :: allOwned owner rest
end

mutual
def settled : Statement → Statement
  | .function decorators name parameters body =>
    .function decorators name parameters (allSettled body)
  | .class decorators name bases body => .class decorators name bases (allOwned name (allSettled body))
  | .branch test yes no => .branch test (allSettled yes) (allSettled no)
  | .each target source body => .each target source (allSettled body)
  | .attempt body caught handler => .attempt (allSettled body) caught (allSettled handler)
  | .within manager target body => .within manager target (allSettled body)
  | other => other

def allSettled : List Statement → List Statement
  | [] => []
  | first :: rest => first.settled :: allSettled rest
end

mutual
def isSound : Statement → Bool
  | .evaluate value => value.isSound
  | .assign target value => target.isSoundTarget && value.isSound
  | .extend target value => target.isSoundTarget && value.isSound
  | .annotate target _ value => target.isSoundTarget && value.all Term.isSound
  | .load module => Term.isGivable module
  | .loadFrom _ names => names.all Term.isGivable
  | .function decorators name parameters body =>
    Term.areSound decorators && Term.isGivable name &&
      parameters.all (fun parameter =>
        Term.isGivable parameter.name && parameter.fallback.all Term.isSound) &&
      Term.areDistinct (parameters.map Parameter.name) && areSound body
  | .class decorators name bases body =>
    Term.areSound decorators && Term.isGivable name && Term.areSound bases && areSound body
  | .branch test yes no => test.isSound && areSound yes && areSound no
  | .each target source body => target.isSoundTarget && source.isSound && areSound body
  | .attempt body caught handler => areSound body && caught.all Term.isSound && areSound handler
  | .within manager target body => manager.isSound && target.all Term.isSoundTarget && areSound body
  | .raise raised => raised.all Term.isSound
  | .give value => value.all Term.isSound
  | .shared names => names.all Term.isGivable
  | .pass => true

def areSound : List Statement → Bool
  | [] => true
  | first :: rest => first.isSound && areSound rest
end

mutual
def bound : Statement → List String
  | .assign target _ => target.bound
  | .extend target _ => target.bound
  | .annotate target _ _ => target.bound
  | .load module => [module]
  | .loadFrom _ names => names
  | .function _ name _ _ => [name]
  | .class _ name _ _ => [name]
  | .branch _ yes no => allBound yes ++ allBound no
  | .each target _ body => target.bound ++ allBound body
  | .attempt body _ handler => allBound body ++ allBound handler
  | .within _ target body => (target.map Term.bound).getD [] ++ allBound body
  | _ => []

def allBound : List Statement → List String
  | [] => []
  | first :: rest => first.bound ++ allBound rest
end

def sharedNames (body : List Statement) : List String :=
  body.flatMap (fun statement =>
    match statement with
    | .shared names => names
    | _ => [])

def locals (parameters : List String) (body : List Statement) : List String :=
  parameters ++ (allBound body).filter (fun name => !(sharedNames body).contains name)

mutual
def reads (name : String) : Statement → Bool
  | .evaluate value => value.reads name
  | .assign target value => target.reads name || value.reads name
  | .extend target value => target.reads name || value.reads name
  | .annotate target _ value => target.reads name || value.any (Term.reads name)
  | .branch test yes no => test.reads name || anyReads name yes || anyReads name no
  | .each target source body => target.reads name || source.reads name || anyReads name body
  | .attempt body caught handler =>
    anyReads name body || caught.any (Term.reads name) || anyReads name handler
  | .within manager target body =>
    manager.reads name || target.any (Term.reads name) || anyReads name body
  | .raise raised => raised.any (Term.reads name)
  | .give value => value.any (Term.reads name)
  | _ => false

def anyReads (name : String) : List Statement → Bool
  | [] => false
  | first :: rest => first.reads name || anyReads name rest
end

def purpose : List Statement → Option String
  | .evaluate (.constant (.text value)) :: _ => some value
  | _ => none

end Statement
end NativeBinding.Script
