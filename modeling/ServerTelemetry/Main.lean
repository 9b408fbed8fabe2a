import ServerTelemetry.CommandLine

/-!
# The program

Reads the variables and the file that the command line asks for, and prints how it ends.
-/

namespace ServerTelemetry.Program

/-- The variables that the program asks for. -/
def variableNames : List Text :=
  Variable.all.map (·.name) ++ Collector.compressionVariables
    ++ [Resource.serviceNameVariable, Resource.attributesVariable, Startup.filterVariable,
      Sampler.nameVariable, Sampler.shareVariable, Recording.limitVariable]
    ++ [CommandLine.ValueOption.config, .listen].map (·.variableName)

/-- The variables that are set. -/
def readVariables : IO (List (Text × Text)) :=
  variableNames.filterMapM fun name => do
    return (← IO.getEnv (String.ofList name)).map fun value => (name, value.toList)

/-- Why a file could not be read. -/
def fileError : IO.Error → FileError
  | .permissionDenied .. => .forbidden
  | .inappropriateType none .. => .directory
  | .inappropriateType (some _) .. => .notDirectory
  | .invalidArgument .. => .tooLong
  | _ => .missing

/-- The bytes of a file, or why it cannot be read. -/
def readBytes (path : Text) : IO (Except FileError (List UInt8)) := do
  try
    let bytes ← IO.FS.readBinFile (String.ofList path)
    return .ok bytes.toList
  catch error => return .error (fileError error)

/-- Prints how the program ends. -/
def finish (ending : CommandLine.Ending) : IO UInt32 := do
  IO.print (String.ofList ending.output)
  if let some complaint := ending.complaint then
    let words := if ending.code = 1 then "Error: ".toList ++ complaint else complaint
    IO.eprintln (String.ofList words)
  return ending.code.toUInt32

/-- Runs the program with some arguments. -/
def run (arguments : List String) : IO UInt32 := do
  let vars ← readVariables
  let lookup (name : Text) := vars.lookup name
  let arguments := arguments.map String.toList
  let files ← (CommandLine.filesNeeded lookup arguments).mapM fun path => do
    return (path, ← readBytes path)
  finish (CommandLine.run lookup (fun path => (files.lookup path).getD (.error .missing)) arguments)

end ServerTelemetry.Program

/-- The program. -/
def main (arguments : List String) : IO UInt32 :=
  ServerTelemetry.Program.run arguments
