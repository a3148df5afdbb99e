import ClusterMap.Command.Run
import ClusterMap.Http.Address

/-!
# The program

Looks up what the command needs, runs it and prints what it leaves behind. There is no network and
no window here.
-/

namespace ClusterMap.Command

/-- What a file holds. -/
def readContents (path : String) : IO (Except Snapshot.ReadFailure String) := do
  try
    let bytes ← IO.FS.readBinFile path
    match String.fromUTF8? bytes with
    | some text => return .ok text
    | none => return .error .notUtf8
  catch e =>
    match e with
    | .noFileOrDirectory .. => return .error .missing
    | .inappropriateType .. => return .error .isDirectory
    | e => return .error (.other (toString e))

/-- The variables that the program and its environment file may ask for. -/
def readVariables (names : List String) : IO Environment.Lookup := do
  let pairs ← names.mapM fun name => do return (name, ← IO.getEnv name)
  return fun name => (pairs.find? (·.1 == name)).bind (·.2)

/-- What the program finds, apart from the snapshot. -/
def look (environmentFile : Option String) : IO Surroundings := do
  let asked := (environmentFile.map Environment.references).getD []
  let environment ← readVariables (Settings.names ++ asked)
  return {
    environment
    environmentFile
    contents := fun _ => .error .missing
    answer := Http.offline
    listenFault := "Operation not supported (os error 95)"
    windowFault := "no display" }

end ClusterMap.Command

/-- Runs the program. -/
def main (words : List String) : IO UInt32 := do
  let environmentFile ← ClusterMap.Command.readContents ".env"
  let found ← ClusterMap.Command.look environmentFile.toOption
  let found ← match ClusterMap.Command.snapshotFile? words found with
    | none => pure found
    | some path => do
      let read ← ClusterMap.Command.readContents path
      pure { found with contents := fun _ => read }
  let exit := ClusterMap.Command.execute words found
  IO.print exit.output
  (← IO.getStderr).putStr exit.errors
  return exit.code.toUInt32
