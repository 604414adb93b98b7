import NativeBinding.Emitted.Hygiene
import NativeBinding.Script.Steps

namespace NativeBinding

structure Program where
  model : Model
  world : Script.World

def Model.lacks (model : Model) (name : String) : Bool := !model.knows name && !Text.startsWith "__" name

namespace Literal

mutual
def isPlain (model : Model) : Literal → Bool
  | .value _ => true
  | .member enumeration _ => (model.enumeration? enumeration).isSome || model.lacks enumeration
  | .wrapped payload => payload.isPlain model
  | .record name values => ((model.record? name).isSome || model.lacks name) && arePlain model values

def arePlain (model : Model) : List Literal → Bool
  | [] => true
  | literal :: rest => literal.isPlain model && arePlain model rest
end

def isWhole : Literal → Bool
  | .value (.int _) => true
  | _ => false

end Literal

namespace Reply

def isPlain (model : Model) : Reply Literal → Bool
  | .value literal => literal.isPlain model
  | _ => true

end Reply

namespace Step

def typePlain (type : TypeRef) : Bool := type.mentioned.all isPlainName

-- A step that asks for nothing but what the model declares, or for names that mean
-- nothing at all.
def isPlain (model : Model) : Step Literal → Bool
  | .call name values reply _ =>
    ((model.function? name).isSome || model.lacks name) &&
      values.all (Literal.isPlain model) && reply.isPlain model
  | .ordinal enumeration literal =>
    ((model.enumeration? enumeration).isSome || model.lacks enumeration) && literal.isPlain model
  | .size type literal => typePlain type && literal.isPlain model
  | .encode type literal => typePlain type && literal.isPlain model
  | .decode type native => typePlain type && native.isPlain model
  | .alloc literal => literal.isWhole
  | .writer _ ops => ops.all (fun op =>
      match op with
      | .write _ literal => literal.isPlain model
      | .finish => true)
  | .lowerText literal => literal.isPlain model
  | _ => true

end Step

namespace Session

def outcomeOf (action : Act Result) (session : Session) : Except Fault Result × Session :=
  match action session with
  | .ok result after => (.ok result,after)
  | .error fault after => (.error fault,after)

end Session

namespace Program

def session (program : Program) : Session := program.world.session

def withLibrary (world : Script.World) : Script.World :=
  let change : Script.Run PUnit := Script.Frame.putAt Script.Frame.globals "_library"
    (Script.Steps.libraryObj world.session.bound)
  match change world with
  | .ok _ after => after
  | .error _ after => after

def boundLibrary (world : Script.World) : Option Owner :=
  match Script.Frame.namesOf Script.Frame.globals world with
  | .ok names _ =>
    match names.lookup "_library" with
    | some (.library owner) => some owner
    | _ => none
  | .error .. => none

def keepLibrary (world : Script.World) : Script.World :=
  { world with session := { world.session with bound := boundLibrary world } }

-- Where all names stand for what they were declared for, nothing is looked up by
-- name. Only other programs and other steps need that.
def act (program : Program) (asked : Step Literal) : Except Fault Result × Script.World :=
  if program.model.isHygienic then
    if asked.isPlain program.model then
      let (result,after) := Session.outcomeOf (Act.run program.model asked) program.session
      (result,{ program.world with session := after })
    else
      let (result,after) := Script.Steps.advance asked (withLibrary program.world)
      (result,keepLibrary after)
  else Script.Steps.advance asked program.world

-- A step starts with nothing shown. A failed step leaves its state behind too.
def advance (program : Program) (asked : Step Literal) : Outcome × Program :=
  let (result,world) := { program with world :=
    { program.world with session := { program.session with events := [],log := [] } } }.act asked
  let shown := world.session
  (⟨result,shown.events,shown.library.live,shown.log⟩,{ program with world })

def run (program : Program) : List (Step Literal) → List Outcome
  | [] => []
  | asked :: rest =>
    let (outcome,after) := program.advance asked
    outcome :: after.run rest

def start (model : Model) (file : String) (bound : Option Owner) : Except Fault Program := do
  let world ← model.loaded (Session.start file none)
  match bound with
  | none => return ⟨model,world⟩
  | some owner =>
    if model.isHygienic then
      return ⟨model,{ world with session := { world.session with bound := some owner } }⟩
    else
      let (result,after) := Script.outcome (Script.Steps.begin owner) world
      let _ ← result
      return ⟨model,after⟩

end Program
end NativeBinding
