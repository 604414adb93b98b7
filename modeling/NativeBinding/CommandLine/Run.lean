import NativeBinding.CommandLine.FileTree
import NativeBinding.CommandLine.Options
import NativeBinding.Config
import NativeBinding.Definition.Read
import NativeBinding.Emitted.Source

namespace NativeBinding.CommandLine

-- How a run ends: with a status, with a file problem that nobody handles, or
-- without a directory to write to.
inductive Ending
  | status (code : Nat)
  | escaped (problem : FileProblem)
  | nowhere
deriving DecidableEq,Repr

structure Console where
  output : List String
  errors : List String
deriving DecidableEq,Repr

def unifyLineEnds : List Char → List Char
  | [] => []
  | '\r' :: '\n' :: rest => '\n' :: unifyLineEnds rest
  | '\r' :: rest => '\n' :: unifyLineEnds rest
  | c :: rest => c :: unifyLineEnds rest

def threshold (options : Options) : Level := if options.verbose then .debug else .warning

def logLines (options : Options) (logger : String) (reports : List Report) : List String :=
  (reports.filter (fun report => (threshold options).rank ≤ report.level.rank)).map
    (fun report => report.level.word ++ " " ++ logger ++ ": " ++ report.text)

def generatorLogger : String := "ffibind.python_generator"
def commandLogger : String := "ffibind.cli"

structure Compiled where
  log : List String
  result : Except String (Config × Model × String)

def overridesOf (options : Options) : List (String × Option String) :=
  [("module_name",some options.moduleName),("library_name",some options.libraryName)]

def configFor (options : Options) (component : String) : Config :=
  match Config.forComponent component (overridesOf options) with
  | .ok config => config
  | .error _ => Config.defaults component

def compile (options : Options) (definition : String) : Compiled :=
  match Definition.readChars (unifyLineEnds definition.toList) with
  | .error error => ⟨[],.error error.message⟩
  | .ok model =>
    let config := configFor options model.component
    let generation := model.generate config
    let log := logLines options generatorLogger generation.log
    match generation.result with
    | .error error => ⟨log,.error error.message⟩
    | .ok source => ⟨log,.ok (config,model,source)⟩

def outputPath (directory : String) (config : Config) : Path :=
  (Path.ofString directory).join (Path.ofString (config.moduleName ++ ".py"))

def unreadable (path : Path) (reason : String) : String :=
  "error: cannot read " ++ path.text ++ ": " ++ reason

def refused (path : Path) (reason : String) : String := "error: " ++ path.text ++ ": " ++ reason

def writtenReport (model : Model) (source : String) : Report :=
  ⟨.info,"wrote " ++ toString source.length ++ " bytes for namespace " ++ model.component⟩

def generatedLine (path : Path) : String := "Generated: " ++ path.text

def completedLine (elapsed : String) : String := "Generation completed in " ++ elapsed ++ " ms"

inductive Request
  | help
  | usage
  | generate (options : Options) (definition : Path)

def requestOf (words : List String) : Request :=
  match readOptions words with
  | .error .help => .help
  | .error .usage => .usage
  | .ok options =>
    match options.definitionPath with
    | none => .usage
    | some definition => .generate options (Path.ofString definition)

inductive Verdict
  | refused
  | nowhere
  | accepted (directory : String) (config : Config) (model : Model) (source : String)

-- The lines that come first are shown whatever the verdict is.
def judge (options : Options) (definition : Path) (text : String) : List String × Verdict :=
  let compiled := compile options text
  match compiled.result with
  | .error reason => (compiled.log ++ [refused definition reason],.refused)
  | .ok (config,model,source) =>
    match options.outputDir with
    | none => (compiled.log,.nowhere)
    | some directory => (compiled.log,.accepted directory config model source)

def emitted (options : Options) (path : Path) (model : Model) (source elapsed : String) : Console :=
  ⟨[generatedLine path,completedLine elapsed],logLines options commandLogger [writtenReport model source]⟩

structure Run where
  ending : Ending
  console : Console
  tree : FileTree

def emit (options : Options) (directory elapsed : String) (tree : FileTree) (log : List String)
    (config : Config) (model : Model) (source : String) : Run :=
  match tree.ensureDirectory (Path.ofString directory) with
  | (.error problem,after) => ⟨.escaped problem,⟨[],log⟩,after⟩
  | (.ok _,after) =>
    let path := outputPath directory config
    match after.write path source with
    | .error problem => ⟨.escaped problem,⟨[],log⟩,after⟩
    | .ok last =>
      let console := emitted options path model source elapsed
      ⟨.status 0,⟨console.output,log ++ console.errors⟩,last⟩

def execute (options : Options) (definition : Path) (elapsed : String) (tree : FileTree) : Run :=
  match tree.read definition with
  | .error problem =>
    match problem.message definition with
    | none => ⟨.escaped problem,⟨[],[]⟩,tree⟩
    | some reason => ⟨.status 1,⟨[],[unreadable definition reason]⟩,tree⟩
  | .ok text =>
    match judge options definition text with
    | (errors,.refused) => ⟨.status 1,⟨[],errors⟩,tree⟩
    | (log,.nowhere) => ⟨.nowhere,⟨[],log⟩,tree⟩
    | (log,.accepted directory config model source) => emit options directory elapsed tree log config model source

-- Texts of usage and help are not described here.
def run (words : List String) (elapsed : String) (tree : FileTree) : Run :=
  match requestOf words with
  | .help => ⟨.status 0,⟨[],[]⟩,tree⟩
  | .usage => ⟨.status 2,⟨[],[]⟩,tree⟩
  | .generate options definition => execute options definition elapsed tree

end NativeBinding.CommandLine
