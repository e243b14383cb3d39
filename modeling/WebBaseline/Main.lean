import WebBaseline.CommandLine.Run

/-!
The program. It gathers the files that its arguments and variables may name, runs the command line on them
and writes what the run leaves. Nothing is downloaded here, so datasets have to be files.
-/

open WebBaseline

namespace WebBaseline.Program

/-- The variables that matter to a run. -/
def variableNames : List String :=
  ["BASELINE_LITE_FEATURES", "BASELINE_LITE_COMPAT", "BASELINE_LITE_DEBUG", "COLUMNS"]

def readEnvironment : IO CommandLine.Environment := do
  let mut found : CommandLine.Environment := []
  for name in variableNames do
    if let some value ← IO.getEnv name then
      found := found ++ [(name.toList, value.toList)]
  return found

/-- Everything that may be the path of a file: the arguments, what stands behind an equals sign in them,
and the values of variables. -/
def mayBePaths (args : List String) (environment : CommandLine.Environment) : List Text :=
  Settings.usualFile :: args.flatMap (fun arg =>
    arg.toList :: ((Text.cutAt? "=" arg.toList).map (·.2)).toList) ++ environment.map (·.2)

/-- The directory of the present user, if there is one. -/
def readHomes : IO (List (Text × Text)) := do
  return ((← IO.getEnv "HOME").map fun home => ([], home.toList)).toList

/-- The files among the paths, also where a tilde stands for a directory. -/
def readFiles (paths : List Text) : IO Files := do
  let directory ← IO.currentDir
  let homes ← readHomes
  let bare := Files.ofList directory.toString.toList [] homes
  let mut items : List (Text × Item) := []
  for path in paths ++ paths.filterMap fun path => (Dataset.path bare path).toOption do
    let place := directory / String.ofList path
    if ← place.isDir then
      items := items ++ [(path, .directory)]
    else if ← place.pathExists then
      items := items ++ [(path, .file (← IO.FS.readBinFile place).toList)]
  return Files.ofList directory.toString.toList items homes

def writeLines (stream : IO.FS.Stream) (lines : List Text) : IO Unit :=
  lines.forM fun line => stream.putStr (String.ofList line ++ "\n")

end WebBaseline.Program

def main (args : List String) : IO UInt32 := do
  let environment ← Program.readEnvironment
  let files ← Program.readFiles (Program.mayBePaths args environment)
  let run := CommandLine.run { files, environment } (args.map String.toList)
  Program.writeLines (← IO.getStdout) run.out
  Program.writeLines (← IO.getStderr) run.err
  if let some failure := run.escaped then
    Program.writeLines (← IO.getStderr) [failure.message]
  return run.status.toUInt32
