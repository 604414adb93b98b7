import NativeBinding.Emitted.BufferEntry
import NativeBinding.Emitted.Declaration
import NativeBinding.Emitted.EnumClass
import NativeBinding.Emitted.Loading
import NativeBinding.Emitted.OptionalHelpers
import NativeBinding.Emitted.Preamble
import NativeBinding.Emitted.RecordClass
import NativeBinding.Emitted.Support
import NativeBinding.Emitted.Wrapper
import NativeBinding.Report

namespace NativeBinding

-- A refusal found while the items are rendered is one of the listed failures.
-- A refusal found later, in the parts that only follow from them, escapes.
inductive GenerationError
  | items (failures : List Unsupported)
  | escaped (failure : Unsupported)
deriving DecidableEq,Repr

def GenerationError.message : GenerationError → String
  | .items failures => "\n".intercalate
      ((toString failures.length ++ " interface item(s) could not be generated:") ::
        failures.map (fun failure => "  - " ++ failure.message))
  | .escaped failure => failure.message

structure Generation where
  log : List Report
  result : Except GenerationError String

namespace Model

def collectResults (results : List (Supported α)) : List Unsupported × List α :=
  results.foldr (fun result rest =>
    match result with
    | .error failure => (failure :: rest.1,rest.2)
    | .ok value => (rest.1,value :: rest.2)) ([],[])

def recordClasses (model : Model) : List Unsupported × List RecordClass :=
  collectResults (model.records.map Record.emitted)

def wrappers (model : Model) : List Unsupported × List Wrapper :=
  collectResults (model.functions.map model.wrapper)

def failures (model : Model) : List Unsupported := model.recordClasses.1 ++ model.wrappers.1

def boundaryTypes (model : Model) : List TypeRef :=
  model.records.flatMap (fun record =>
    if record.emitted.isOk then record.fields.map Field.type else []) ++
  model.functions.flatMap (fun function =>
    if (model.wrapper function).isOk then
      function.arguments.map Field.type ++ function.returns.toList
    else [])

def optionalTypes (model : Model) : List TypeRef := TypeRef.collectOptionals model.boundaryTypes

def optionalHelpers (model : Model) : Supported (List OptionalHelpers) := do
  let helpers ← model.optionalTypes.mapM TypeRef.helpers
  return helpers.filterMap id

def sectionUnlessEmpty (title : String) (lines : List String) : List String :=
  if lines.isEmpty then [] else sectionLines title ++ lines

def objectLines (model : Model) : List String :=
  model.objects.flatMap (fun object =>
    ["# object " ++ object ++ " is not supported by these bindings",""])

def bodyLines (model : Model) (config : Config) : Supported (List String) := do
  let declarations ← model.declarationLines
  let helpers ← model.optionalHelpers
  return preambleLines model.component config.header ++
    sectionLines "Buffer Protocol" ++ supportLines ++ model.bufferEntryLines ++
    sectionLines "Library Loading" ++ loadingLines model.component config.libraryName ++
    sectionLines "Foreign-Call Declarations" ++ declarations ++
    sectionUnlessEmpty "Enum Definitions" (model.enumerations.flatMap Enumeration.lines) ++
    sectionUnlessEmpty "Record Definitions" (model.recordClasses.2.flatMap RecordClass.lines) ++
    sectionUnlessEmpty "Optional Codecs" (helpers.flatMap OptionalHelpers.lines) ++
    sectionUnlessEmpty "Functions" (model.wrappers.2.flatMap Wrapper.lines) ++
    model.objectLines

def dropEmptyEnd (lines : List String) : List String :=
  lines.foldr (fun line rest => if rest.isEmpty && line.isEmpty then [] else line :: rest) []

def joinLines (lines : List String) : String := "\n".intercalate (dropEmptyEnd lines ++ [""])

def renderingLog (model : Model) : List Report :=
  model.enumerations.map (fun item => ⟨.debug,"rendering enum " ++ item.name⟩) ++
  model.records.map (fun item => ⟨.debug,"rendering record " ++ item.name⟩) ++
  model.functions.map (fun item => ⟨.debug,"rendering function " ++ item.name⟩)

def objectLog (model : Model) : List Report :=
  model.objects.map (fun object => ⟨.warning,"skipping object " ++ object ++ ": objects are not supported"⟩)

-- All or nothing: there is a source only if no item is refused.
def generate (model : Model) (config : Config) : Generation :=
  match model.failures with
  | [] =>
    match model.bodyLines config with
    | .ok lines => ⟨model.renderingLog ++ model.objectLog,.ok (joinLines lines)⟩
    | .error failure => ⟨model.renderingLog,.error (.escaped failure)⟩
  | failures =>
    ⟨model.renderingLog ++ failures.map (fun failure => ⟨.error,failure.message⟩),.error (.items failures)⟩

end Model
end NativeBinding
