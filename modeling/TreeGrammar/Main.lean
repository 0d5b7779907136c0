import TreeGrammar.CommandLine
set_option autoImplicit false

namespace TreeGrammar

namespace CommandLine

def directoryErrorNumber : UInt32 := 21

def longNameErrorNumber : UInt32 := 36

def readPath (path : String) : IO FileReading := do
  try
    return .ofBytes (← IO.FS.readBinFile path)
  catch
    | .inappropriateType _ number _ =>
      return if number = directoryErrorNumber then .directory else .notDirectory
    | .invalidArgument _ number _ =>
      return if number = longNameErrorNumber then .nameTooLong else .missing
    | _ => return .missing

def readPaths (paths : List String) : IO Files := do
  let readings ← paths.mapM fun path => return (path, ← readPath path)
  return fun path => (readings.lookup path).getD .missing

def execute (words : List String) : IO UInt32 := do
  let paths := match readWords words with
    | .ok command => command.paths
    | .error _ => []
  let files ← readPaths paths
  let report := run files (← IO.rand 0 (Nat.pow 2 256 - 1)) words
  (← IO.getStdout).putStr report.output
  (← IO.getStderr).putStr report.errors
  return report.exitCode.toUInt32

end CommandLine

end TreeGrammar

def main (words : List String) : IO UInt32 := TreeGrammar.CommandLine.execute words
