import NativeBinding.Text.Word

namespace NativeBinding.CommandLine
open Text

inductive Flag
  | help | definition | outputDir | moduleName | libraryName | verbose
deriving DecidableEq,Repr

def Flag.takesValue : Flag → Bool
  | .help => false
  | .verbose => false
  | _ => true

def longFlags : List (List Char × Flag) := [
  ("--help".toList,.help),("--idl".toList,.definition),("--output-dir".toList,.outputDir),
  ("--module-name".toList,.moduleName),("--library-name".toList,.libraryName),("--verbose".toList,.verbose)]

def shortFlags : List (Char × Flag) := [
  ('h',.help),('o',.outputDir),('m',.moduleName),('v',.verbose)]

inductive Argument
  | word (text : String)
  | separator
  | long (flag : Flag) (attached : Option (List Char))
  | short (flag : Flag) (attached : Option (List Char))
  | unknown
deriving DecidableEq,Repr

def isNegativeNumber (text : List Char) : Bool :=
  match text with
  | '-' :: rest =>
    let body := if rest.getLast? == some '\n' then rest.dropLast else rest
    let whole := body.takeWhile isDecimal
    match body.dropWhile isDecimal with
    | [] => !whole.isEmpty
    | '.' :: fraction => !fraction.isEmpty && fraction.all isDecimal
    | _ => false
  | _ => false

def splitEquals (text : List Char) : List Char × Option (List Char) :=
  match text.dropWhile (fun c => c != '=') with
  | [] => (text,none)
  | _ :: rest => (text.takeWhile (fun c => c != '='),some rest)

def otherwise (text : List Char) : Argument :=
  if isNegativeNumber text || text.contains ' ' then .word (String.ofList text) else .unknown

-- Long options may be cut short as long as one option is meant. Nothing is
-- returned for a word that could mean several.
def longArgument (text : List Char) : Option Argument :=
  let (name,rest) := splitEquals text
  match longFlags.lookup text with
  | some flag => some (.long flag none)
  | none =>
    match longFlags.lookup name with
    | some flag => some (.long flag rest)
    | none =>
      match longFlags.filter (fun row => name.isPrefixOf row.1) with
      | [] => some (otherwise text)
      | [row] => some (.long row.2 rest)
      | _ => none

-- An equals sign right behind the letter of an option is no part of the text.
def attachedTo (rest : List Char) : Option (List Char) :=
  match rest with
  | [] => none
  | '=' :: text => some text
  | text => some text

def shortArgument (name : Char) (rest text : List Char) : Argument :=
  match shortFlags.lookup name with
  | some flag => .short flag (attachedTo rest)
  | none => otherwise text

def argumentOf (text : String) : Option Argument :=
  match text.toList with
  | '-' :: '-' :: rest => longArgument ('-' :: '-' :: rest)
  | '-' :: name :: rest => some (shortArgument name rest ('-' :: name :: rest))
  | _ => some (.word text)

def argumentsOf : List String → Option (List Argument)
  | [] => some []
  | text :: rest =>
    if text == "--" then some (.separator :: rest.map Argument.word)
    else do
      let argument ← argumentOf text
      let others ← argumentsOf rest
      return argument :: others

-- An option whose value is a separator is given, but without a value.
abbrev Given := Option String

def given (text : List Char) : Given := if text == ['-','-'] then none else some (String.ofList text)

structure Options where
  positional : Option String
  definition : Option String
  outputDir : Given
  moduleName : String
  libraryName : String
  verbose : Bool
deriving DecidableEq,Repr

def Options.defaults : Options := ⟨none,none,some "generated","","",false⟩

def Options.set (options : Options) (flag : Flag) (value : Given) : Options :=
  match flag with
  | .help => options
  | .definition => { options with definition := value }
  | .outputDir => { options with outputDir := value }
  | .moduleName => { options with moduleName := value.getD "" }
  | .libraryName => { options with libraryName := value.getD "" }
  | .verbose => { options with verbose := true }

inductive Stop
  | help
  | usage
deriving DecidableEq,Repr

-- One word may stand for several short options; the last one may still wait for
-- its value.
structure Cluster where
  settings : List (Flag × Given)
  waiting : Option Flag
deriving DecidableEq,Repr

def alone (flag : Flag) : Cluster :=
  if flag.takesValue then ⟨[],some flag⟩ else ⟨[(flag,none)],none⟩

def cluster (flag : Flag) (text : List Char) : Except Stop Cluster :=
  if flag.takesValue then .ok ⟨[(flag,given text)],none⟩
  else match text with
    | [] => .error .usage
    | name :: rest =>
      match shortFlags.lookup name with
      | none => .error .usage
      | some next => do
        let others ← if rest.isEmpty then .ok (alone next) else cluster next rest
        return { others with settings := (flag,none) :: others.settings }

def clusterOf : Argument → Except Stop Cluster
  | .short flag none => .ok (alone flag)
  | .short flag (some text) => cluster flag text
  | .long flag none => .ok (alone flag)
  | .long flag (some text) =>
    if flag.takesValue then .ok ⟨[(flag,given text)],none⟩ else .error .usage
  | _ => .ok ⟨[],none⟩

def applySettings (options : Options) : List (Flag × Given) → Except Stop Options
  | [] => .ok options
  | (flag,value) :: rest =>
    if flag = .help then .error .help else applySettings (options.set flag value) rest

structure Progress where
  options : Options
  taken : Bool
  leftOver : Bool
deriving DecidableEq,Repr

-- The positional word may have one separator in front of it or behind it.
def walk (progress : Progress) : List Argument → Except Stop Progress
  | [] => .ok progress
  | .word text :: .separator :: rest =>
    if progress.taken then walk { progress with leftOver := true } rest
    else walk { progress with options := { progress.options with positional := some text },taken := true } rest
  | .word text :: rest =>
    if progress.taken then walk { progress with leftOver := true } rest
    else walk { progress with options := { progress.options with positional := some text },taken := true } rest
  | .separator :: .word text :: rest =>
    if progress.taken then walk { progress with leftOver := true } rest
    else walk { progress with options := { progress.options with positional := some text },taken := true } rest
  | .separator :: rest =>
    walk (if progress.taken then { progress with leftOver := true } else { progress with taken := true }) rest
  | .unknown :: rest => walk { progress with leftOver := true } rest
  | argument :: rest => do
    let cluster ← clusterOf argument
    match cluster.waiting,rest with
    | none,rest => do
      let options ← applySettings progress.options cluster.settings
      walk { progress with options } rest
    | some flag,.word value :: rest => do
      let options ← applySettings progress.options (cluster.settings ++ [(flag,given value.toList)])
      walk { progress with options } rest
    | some _,_ => .error .usage

def readOptions (words : List String) : Except Stop Options :=
  match argumentsOf words with
  | none => .error .usage
  | some arguments => do
    let progress ← walk ⟨Options.defaults,false,false⟩ arguments
    if progress.leftOver then .error .usage else .ok progress.options

def Options.definitionPath (options : Options) : Option String :=
  [options.positional,options.definition].findSome? (fun given =>
    given.bind (fun path => if path.isEmpty then none else some path))

end NativeBinding.CommandLine
