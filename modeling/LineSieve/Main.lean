import LineSieve.CommandLine.Execute
import LineSieve.Log.Event
import Std.Time.DateTime.Timestamp

/- The program. It loads the files that the arguments may name, runs the command on them and stores
   what the command changed. -/
namespace LineSieve.Program

def version : String := "dev"

mutual

/-- Load an entry of a directory; what is neither file, directory nor link is left out. -/
partial def loadEntry (entry : IO.FS.DirEntry) : IO (Option Node) := do
  match ← entry.path.symlinkMetadata.toBaseIO with
  | .error _ => return none
  | .ok info =>
    match info.type with
    | .dir =>
      if Selection.ignoredDirectories.contains entry.fileName then return some (.directory .nil)
      else return some (.directory (← loadListing entry.path.toString))
    | .file => return some (.file (← IO.FS.readBinFile entry.path))
    | .symlink =>
      if ← entry.path.pathExists then
        return some (.link (← IO.FS.realPath entry.path).toString)
      else return some (.link "")
    | .other => return none

partial def loadListing (directory : String) : IO Listing := do
  let entries ← (← IO.FS.realPath directory).readDir
  entries.foldlM (fun listing entry => do
    match ← (loadEntry entry).toBaseIO with
    | .ok (some node) => return listing.put entry.fileName node
    | _ => return listing) .nil

end

def loadPlace (top : Listing) (place : List String) : IO Listing := do
  let mut top := top
  let mut above : List String := []
  for name in place do
    let entry : IO.FS.DirEntry := { root := "/" ++ "/".intercalate above, fileName := name }
    above := above ++ [name]
    if (top.at? above).isNone || above == place then
      if above != place && (← entry.path.isDir) then
        top := top.putAt above (.directory .nil)
      else if let some node ← loadEntry entry then
        top := top.putAt above node
  return top

def placeOf (origin : List String) (path : String) : List String :=
  FileTree.names (String.ofList (Path.absolute (Service.rootedPath origin).toList path.toList))
    |>.filter (· ≠ "")

def loadTree (origin : List String) (arguments : List String) : IO FileTree := do
  let values := arguments.flatMap fun argument =>
    let value := (splitValue argument).map (·.trimAscii.toString)
    argument :: argument.trimAscii.toString :: value.toList
  let mut top ← loadPlace .nil origin.dropLast
  for path in [Config.fileName] ++ values do
    if path ≠ "" then top ← loadPlace top (placeOf origin path)
  return { top, origin }
where
  splitValue (argument : String) : Option String := (CommandLine.splitArgument argument.toList).2

def store (before after : FileTree) : IO Unit := do
  for (place, content) in after.top.files [] do
    let unchanged := match before.top.at? place with
      | some (.file old) => old == content
      | _ => false
    if !unchanged then
      IO.FS.createDirAll (Service.rootedPath place.dropLast)
      IO.FS.writeBinFile (Service.rootedPath place) content

def newRunId : IO String := do
  let bytes ← IO.getRandomBytes 16
  let marked := bytes.toList.mapIdx fun i b =>
    if i == 6 then b % 16 + 0x40 else if i == 8 then b % 64 + 0x80 else b
  let digits := marked.flatMap Text.hexByte
  let part (start length : Nat) : String := String.ofList ((digits.drop start).take length)
  return "-".intercalate [part 0 8, part 8 4, part 12 4, part 16 4, part 20 12]

def environment : IO (List (String × String)) := do
  Settings.variableNames.filterMapM fun name => do
    return (← IO.getEnv name).map (name, ·)

def run (arguments : List String) : IO UInt32 := do
  let origin := FileTree.names (← IO.currentDir).toString |>.filter (· ≠ "")
  let tree ← loadTree origin arguments
  let now ← Std.Time.Timestamp.now
  let session : CommandLine.Session := {
    tree, version
    environment := ← environment
    runId := ← newRunId
    stamp := .ofSeconds now.toSecondsSinceUnixEpoch.val.toNat }
  let outcome := CommandLine.execute session arguments
  store tree outcome.tree
  (← IO.getStdout).putStr (String.ofList outcome.stdout)
  (← IO.getStderr).putStr outcome.stderr
  if let some fault := outcome.fault then
    (← IO.getStderr).putStr (CommandLine.Command.programName ++ ": " ++ fault.message ++ "\n")
  return (exitCode outcome.fault).toUInt32

end LineSieve.Program

def main (arguments : List String) : IO UInt32 := LineSieve.Program.run arguments
