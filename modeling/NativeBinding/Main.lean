import NativeBinding.CommandLine.Run

open NativeBinding NativeBinding.CommandLine

namespace NativeBinding.CommandLine

def usageLine : String :=
  "usage: [-h] [--idl IDL] [--output-dir DIR] [--module-name NAME] [--library-name NAME] [--verbose] [idl_file]"

def elapsedText (nanoseconds : Nat) : String :=
  let hundredths := nanoseconds / 10000
  let rest := toString (hundredths % 100)
  toString (hundredths / 100) ++ "." ++ (if rest.length < 2 then "0" ++ rest else rest)

def printErrors (lines : List String) : IO Unit := lines.forM (fun line => IO.eprintln line)

def emitFiles (options : Options) (directory : String) (start : Nat) (config : Config) (model : Model)
    (source : String) : IO UInt32 := do
  let path := outputPath directory config
  IO.FS.createDirAll (Path.ofString directory).text
  IO.FS.writeFile path.text source
  let finish ← IO.monoNanosNow
  let console := emitted options path model source (elapsedText (finish - start))
  printErrors console.errors
  console.output.forM (fun line => IO.println line)
  return 0

def executeFiles (options : Options) (start : Nat) (definition : Path) : IO UInt32 := do
  match ← (IO.FS.readFile definition.text).toBaseIO with
  | .error problem => do
    printErrors [unreadable definition (toString problem)]
    return 1
  | .ok text => do
    let (errors,verdict) := judge options definition text
    printErrors errors
    match verdict with
    | .refused => return 1
    | .nowhere => throw (IO.userError "no output directory is given")
    | .accepted directory config model source => emitFiles options directory start config model source

end NativeBinding.CommandLine

def main (words : List String) : IO UInt32 := do
  let start ← IO.monoNanosNow
  match requestOf words with
  | .help => do
    IO.println usageLine
    return 0
  | .usage => do
    printErrors [usageLine]
    return 2
  | .generate options definition => executeFiles options start definition
