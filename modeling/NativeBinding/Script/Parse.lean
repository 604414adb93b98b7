import NativeBinding.Script.Term
import NativeBinding.Script.Token

namespace NativeBinding.Script.Parse

-- Readers answer what they read and the tokens behind it. What cannot be read has no
-- further reason.

def sign? (text : String) : List Token → Option (List Token)
  | .sign found :: rest => if found == text then some rest else none
  | _ => none

def keyword? (word : String) : List Token → Option (List Token)
  | .keyword found :: rest => if found == word then some rest else none
  | _ => none

def line? : List Token → Option (List Token)
  | .line :: rest => some rest
  | _ => none

def name? : List Token → Option (String × List Token)
  | .name id :: rest => some (id,rest)
  | _ => none

def relation? : List Token → Option (Relation × List Token)
  | .sign "<" :: rest => some (.less,rest)
  | .sign "<=" :: rest => some (.atMost,rest)
  | .sign ">" :: rest => some (.greater,rest)
  | .sign ">=" :: rest => some (.atLeast,rest)
  | .sign "==" :: rest => some (.equal,rest)
  | .sign "!=" :: rest => some (.unequal,rest)
  | .keyword "in" :: rest => some (.within,rest)
  | .keyword "not" :: .keyword "in" :: rest => some (.without,rest)
  | .keyword "is" :: .keyword "not" :: rest => some (.distinct,rest)
  | .keyword "is" :: rest => some (.same,rest)
  | _ => none

def endsList : List Token → Bool
  | .sign text :: _ => [")","]","\x7d","=",":"].contains text
  | .line :: _ => true
  | [] => true
  | _ => false

mutual
def term : Nat → List Token → Option (Term × List Token)
  | 0,_ => none
  | fuel + 1,tokens => do
    let (yes,rest) ← disjunction fuel tokens
    match keyword? "if" rest with
    | none => return (yes,rest)
    | some rest => do
      let (test,rest) ← disjunction fuel rest
      let rest ← keyword? "else" rest
      let (no,rest) ← term fuel rest
      return (.choice test yes no,rest)

def disjunction : Nat → List Token → Option (Term × List Token)
  | 0,_ => none
  | fuel + 1,tokens => do
    let (left,rest) ← conjunction fuel tokens
    match keyword? "or" rest with
    | none => return (left,rest)
    | some rest => do
      let (right,rest) ← disjunction fuel rest
      return (.either left right,rest)

def conjunction : Nat → List Token → Option (Term × List Token)
  | 0,_ => none
  | fuel + 1,tokens => do
    let (left,rest) ← negation fuel tokens
    match keyword? "and" rest with
    | none => return (left,rest)
    | some rest => do
      let (right,rest) ← conjunction fuel rest
      return (.both left right,rest)

def negation : Nat → List Token → Option (Term × List Token)
  | 0,_ => none
  | fuel + 1,tokens =>
    match keyword? "not" tokens with
    | some rest => do
      let (value,rest) ← negation fuel rest
      return (.negation value,rest)
    | none => do
      let (left,rest) ← sum fuel tokens
      match relation? rest with
      | none => return (left,rest)
      | some (relation,rest) => do
        let (right,rest) ← sum fuel rest
        return (.compare left relation right,rest)

def sum : Nat → List Token → Option (Term × List Token)
  | 0,_ => none
  | fuel + 1,tokens => do
    let (left,rest) ← product fuel tokens
    sumFrom fuel left rest

def sumFrom : Nat → Term → List Token → Option (Term × List Token)
  | 0,_,_ => none
  | fuel + 1,left,tokens =>
    match tokens with
    | .sign "+" :: rest => do
      let (right,rest) ← product fuel rest
      sumFrom fuel (.compute .add left right) rest
    | .sign "-" :: rest => do
      let (right,rest) ← product fuel rest
      sumFrom fuel (.compute .subtract left right) rest
    | _ => some (left,tokens)

def product : Nat → List Token → Option (Term × List Token)
  | 0,_ => none
  | fuel + 1,tokens => do
    let (left,rest) ← signed fuel tokens
    productFrom fuel left rest

def productFrom : Nat → Term → List Token → Option (Term × List Token)
  | 0,_,_ => none
  | fuel + 1,left,tokens =>
    match tokens with
    | .sign "*" :: rest => do
      let (right,rest) ← signed fuel rest
      productFrom fuel (.compute .multiply left right) rest
    | _ => some (left,tokens)

def signed : Nat → List Token → Option (Term × List Token)
  | 0,_ => none
  | fuel + 1,tokens =>
    match tokens with
    | .sign "-" :: rest => do
      let (value,rest) ← signed fuel rest
      return (.negative value,rest)
    | _ => do
      let (owner,rest) ← atom fuel tokens
      trailed fuel owner rest

def trailed : Nat → Term → List Token → Option (Term × List Token)
  | 0,_,_ => none
  | fuel + 1,owner,tokens =>
    match tokens with
    | .sign "." :: .name id :: rest => trailed fuel (.member owner id) rest
    | .sign "." :: _ => none
    | .sign "(" :: rest => do
      let (given,rest) ← arguments fuel rest
      trailed fuel (.call owner given) rest
    | .sign "[" :: rest => do
      let (index,rest) ← subscript fuel rest
      let rest ← sign? "]" rest
      trailed fuel (.item owner index) rest
    | _ => some (owner,tokens)

def subscript : Nat → List Token → Option (Term × List Token)
  | 0,_ => none
  | fuel + 1,tokens => do
    let (first,rest) ← bound fuel tokens
    match sign? ":" rest with
    | some rest => do
      let (last,rest) ← bound fuel rest
      return (.slice first last,rest)
    | none =>
      if endsList tokens then none
      else match sign? "," rest with
        | none => return (first,rest)
        | some rest => do
          let ((others,_),rest) ← listed fuel rest
          return (.tuple (first :: others),rest)

def bound : Nat → List Token → Option (Term × List Token)
  | 0,_ => none
  | fuel + 1,tokens => if endsList tokens then some (.constant .none,tokens) else term fuel tokens

def arguments : Nat → List Token → Option (List Term × List Token)
  | 0,_ => none
  | fuel + 1,tokens =>
    match sign? ")" tokens with
    | some rest => some ([],rest)
    | none => do
      let (given,rest) ← (match tokens with
        | .name id :: .sign "=" :: rest => do
          let (value,rest) ← term fuel rest
          return (Term.keyword id value,rest)
        | _ => term fuel tokens)
      match sign? "," rest with
      | some rest => do
        let (others,rest) ← arguments fuel rest
        return (given :: others,rest)
      | none => do
        let rest ← sign? ")" rest
        return ([given],rest)

def listed : Nat → List Token → Option ((List Term × Bool) × List Token)
  | 0,_ => none
  | fuel + 1,tokens =>
    if endsList tokens then some (([],false),tokens)
    else do
      let (first,rest) ← term fuel tokens
      match sign? "," rest with
      | some rest => do
        let ((others,_),rest) ← listed fuel rest
        return ((first :: others,true),rest)
      | none => return (([first],false),rest)

def terms : Nat → List Token → Option (Term × List Token)
  | 0,_ => none
  | fuel + 1,tokens => do
    let ((items,isTuple),rest) ← listed fuel tokens
    match items,isTuple with
    | [],_ => none
    | [single],false => return (single,rest)
    | items,_ => return (.tuple items,rest)

def part : Nat → Bool × String → Option Term
  | 0,_ => none
  | _ + 1,(false,text) => some (.constant (.text text))
  | fuel + 1,(true,source) => do
    let tokens ← Token.ofText ("(".toList ++ source.toList ++ ")".toList)
    let (value,rest) ← atom fuel tokens
    match rest with
    | [.line] => return value
    | _ => none

def parts : Nat → List (Bool × String) → Option (List Term)
  | 0,_ => none
  | _ + 1,[] => some []
  | fuel + 1,first :: rest => do
    let value ← part fuel first
    let others ← parts fuel rest
    return value :: others

def atom : Nat → List Token → Option (Term × List Token)
  | 0,_ => none
  | fuel + 1,tokens =>
    match tokens with
    | .name "__debug__" :: rest => some (.constant (.flag true),rest)
    | .name id :: rest => some (.name id,rest)
    | .keyword "None" :: rest => some (.constant .none,rest)
    | .keyword "True" :: rest => some (.constant (.flag true),rest)
    | .keyword "False" :: rest => some (.constant (.flag false),rest)
    | .number value :: rest => some (.constant (.int value),rest)
    | .float value :: rest => some (.constant (.float value),rest)
    | .sign "..." :: rest => some (.constant .ellipsis,rest)
    | .text value :: rest => some (.constant (.text value),rest)
    | .bytes value :: rest => some (.constant (.bytes value),rest)
    | .formatted pieces :: rest => do
      let values ← parts fuel pieces
      return (.formatted values,rest)
    | .sign "(" :: .sign ")" :: rest => some (.tuple [],rest)
    | .sign "(" :: rest => do
      let (value,rest) ← terms fuel rest
      let rest ← sign? ")" rest
      return (value,rest)
    | .sign "[" :: rest => do
      let ((items,_),rest) ← listed fuel rest
      let rest ← sign? "]" rest
      return (.list items,rest)
    | _ => none
end

mutual
def isTarget : Term → Bool
  | .name _ => true
  | .member .. => true
  | .item .. => true
  | .tuple items => areTargets items
  | .list items => areTargets items
  | _ => false

def areTargets : List Term → Bool
  | [] => true
  | target :: rest => isTarget target && areTargets rest
end

def target (fuel : Nat) (tokens : List Token) : Option (Term × List Token) := do
  let (found,rest) ← trailing fuel tokens
  if isTarget found then return (found,rest) else none
where
  trailing (fuel : Nat) (tokens : List Token) : Option (Term × List Token) := do
    let (owner,rest) ← atom fuel tokens
    trailed fuel owner rest

def typeText? (mark : String) (fuel : Nat) (tokens : List Token) : Option (List Token) :=
  match sign? mark tokens with
  | none => some tokens
  | some rest => (term fuel rest).map Prod.snd

-- Behind a star all parameters have to be named.
def parameters : Nat → Bool → List Token → Option (List Parameter × List Token)
  | 0,_,_ => none
  | fuel + 1,named,tokens =>
    match tokens with
    | .sign ")" :: rest => some ([],rest)
    | .sign "*" :: .sign "," :: rest => if named then none else parameters fuel true rest
    | .name id :: rest => do
      let rest ← typeText? ":" fuel rest
      let (fallback,rest) ← (match sign? "=" rest with
        | none => some (none,rest)
        | some rest => do
          let (value,rest) ← term fuel rest
          return (some value,rest))
      let parameter : Parameter := ⟨id,fallback,named⟩
      match sign? "," rest with
      | some rest => do
        let (others,rest) ← parameters fuel named rest
        return (parameter :: others,rest)
      | none => do
        let rest ← sign? ")" rest
        return ([parameter],rest)
    | _ => none

def nameList : Nat → List Token → Option (List String × List Token)
  | 0,_ => none
  | fuel + 1,tokens => do
    let (first,rest) ← name? tokens
    match sign? "," rest with
    | some rest => do
      let (others,rest) ← nameList fuel rest
      return (first :: others,rest)
    | none => return ([first],rest)

-- Assignments and terms that stand alone. Of a type that is written down only the name
-- that it starts with counts.
def plain (fuel : Nat) (tokens : List Token) : Option (Statement × List Token) := do
  let (first,rest) ← terms fuel tokens
  match rest with
  | .sign "=" :: rest => do
    let (value,rest) ← terms fuel rest
    if isTarget first then return (.assign first value,rest) else none
  | .sign "+=" :: rest => do
    let (value,rest) ← terms fuel rest
    match first with
    | .tuple _ => none
    | .list _ => none
    | _ => if isTarget first then return (.extend first value,rest) else none
  | .sign ":" :: rest => do
    let typeText := match rest with
      | .name id :: _ => id
      | _ => ""
    let (_,rest) ← term fuel rest
    let (value,rest) ← (match sign? "=" rest with
      | none => some (none,rest)
      | some rest => (terms fuel rest).map (fun (value,rest) => (some value,rest)))
    match first with
    | .tuple _ => none
    | .list _ => none
    | _ => if isTarget first then return (.annotate first typeText value,rest) else none
  | _ => return (.evaluate first,rest)

def simple (fuel : Nat) (tokens : List Token) : Option (Statement × List Token) :=
  match tokens with
  | .keyword "pass" :: rest => some (.pass,rest)
  | .keyword "return" :: rest =>
    if endsList rest then some (.give none,rest)
    else (terms fuel rest).map (fun (value,rest) => (.give (some value),rest))
  | .keyword "raise" :: rest =>
    if endsList rest then some (.raise none,rest)
    else do
      let (raised,rest) ← term fuel rest
      match keyword? "from" rest with
      | none => return (.raise (some raised),rest)
      | some rest => do
        let (_,rest) ← term fuel rest
        return (.raise (some raised),rest)
  | .keyword "global" :: rest => (nameList fuel rest).map (fun (names,rest) => (.shared names,rest))
  | .keyword "import" :: rest => (name? rest).map (fun (module,rest) => (.load module,rest))
  | .keyword "from" :: .name module :: .keyword "import" :: rest =>
    (nameList fuel rest).map (fun (names,rest) => (.loadFrom module names,rest))
  | _ => plain fuel tokens

def simples : Nat → List Token → Option (List Statement × List Token)
  | 0,_ => none
  | fuel + 1,tokens => do
    let (first,rest) ← simple fuel tokens
    match rest with
    | .line :: rest => return ([first],rest)
    | .sign ";" :: .line :: rest => return ([first],rest)
    | .sign ";" :: rest => do
      let (others,rest) ← simples fuel rest
      return (first :: others,rest)
    | _ => none

mutual
def statement : Nat → List Token → Option (List Statement × List Token)
  | 0,_ => none
  | fuel + 1,tokens =>
    match tokens with
    | .sign "@" :: _ => do
      let (decorators,rest) ← decorations fuel tokens
      definition fuel decorators rest
    | .keyword "def" :: _ => definition fuel [] tokens
    | .keyword "class" :: _ => definition fuel [] tokens
    | .keyword "if" :: rest => branch fuel rest
    | .keyword "for" :: rest => do
      let (each,rest) ← target fuel rest
      let rest ← keyword? "in" rest
      let (source,rest) ← terms fuel rest
      let (body,rest) ← block fuel rest
      return ([.each each source body],rest)
    | .keyword "try" :: rest => do
      let (body,rest) ← block fuel rest
      let rest ← keyword? "except" rest
      let (caught,rest) ← (match sign? ":" rest with
        | some _ => some (none,rest)
        | none => (term fuel rest).map (fun (caught,rest) => (some caught,rest)))
      let (handler,rest) ← block fuel rest
      return ([.attempt body caught handler],rest)
    | .keyword "with" :: rest => do
      let (manager,rest) ← term fuel rest
      let (kept,rest) ← (match keyword? "as" rest with
        | none => some (none,rest)
        | some rest => (target fuel rest).map (fun (kept,rest) => (some kept,rest)))
      let (body,rest) ← block fuel rest
      return ([.within manager kept body],rest)
    | _ => simples fuel tokens

def decorations : Nat → List Token → Option (List Term × List Token)
  | 0,_ => none
  | fuel + 1,tokens =>
    match sign? "@" tokens with
    | none => some ([],tokens)
    | some rest => do
      let (first,rest) ← term fuel rest
      let rest ← line? rest
      let (others,rest) ← decorations fuel rest
      return (first :: others,rest)

def definition : Nat → List Term → List Token → Option (List Statement × List Token)
  | 0,_,_ => none
  | fuel + 1,decorators,tokens =>
    match tokens with
    | .keyword "def" :: .name id :: .sign "(" :: rest => do
      let (taken,rest) ← parameters fuel false rest
      let rest ← typeText? "->" fuel rest
      let (body,rest) ← block fuel rest
      return ([.function decorators id taken body],rest)
    | .keyword "class" :: .name id :: .sign "(" :: rest => do
      let (bases,rest) ← arguments fuel rest
      let (body,rest) ← block fuel rest
      return ([.class decorators id bases body],rest)
    | .keyword "class" :: .name id :: rest => do
      let (body,rest) ← block fuel rest
      return ([.class decorators id [] body],rest)
    | _ => none

def branch : Nat → List Token → Option (List Statement × List Token)
  | 0,_ => none
  | fuel + 1,tokens => do
    let (test,rest) ← term fuel tokens
    let (yes,rest) ← block fuel rest
    match rest with
    | .keyword "elif" :: rest => do
      let (no,rest) ← branch fuel rest
      return ([.branch test yes no],rest)
    | .keyword "else" :: rest => do
      let (no,rest) ← block fuel rest
      return ([.branch test yes no],rest)
    | _ => return ([.branch test yes []],rest)

def block : Nat → List Token → Option (List Statement × List Token)
  | 0,_ => none
  | fuel + 1,tokens =>
    match tokens with
    | .sign ":" :: .line :: .indent :: rest => do
      let (body,rest) ← statements fuel rest
      match rest with
      | .dedent :: rest => if body.isEmpty then none else return (body,rest)
      | _ => none
    | .sign ":" :: rest => simples fuel rest
    | _ => none

def statements : Nat → List Token → Option (List Statement × List Token)
  | 0,_ => none
  | fuel + 1,tokens =>
    match tokens with
    | [] => some ([],[])
    | .dedent :: _ => some ([],tokens)
    | _ => do
      let (first,rest) ← statement fuel tokens
      let (others,rest) ← statements fuel rest
      return (first ++ others,rest)
end

def fuelFor (tokens : List Token) : Nat := 20 * tokens.length + 40

def script (text : String) : Option (List Statement) := do
  let tokens ← Token.ofText text.toList
  let (body,rest) ← statements (fuelFor tokens) tokens
  if rest.isEmpty then return body else none

def alone (text : String) : Option Term := do
  let tokens ← Token.ofText (text.toList.dropWhile (fun c => c == ' ' || c == '\t'))
  let (value,rest) ← terms (fuelFor tokens) tokens
  if rest.all (· == .line) then return value else none

end NativeBinding.Script.Parse
