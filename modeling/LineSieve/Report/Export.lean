import LineSieve.Fault
import LineSieve.FileTree.Temporary
import LineSieve.Report.Document
import LineSieve.Text.Alphabet

/- Exporting a report to a file. The content is complete before it takes the place of the file, so a
   failure leaves no file half written. -/
namespace LineSieve.Report

def temporaryFront (path : String) : String :=
  "." ++ String.ofList (Path.base path.toList) ++ "."

def install (tree : FileTree) (temporary : OpenFile) (path : String) (content : ByteArray)
    (disk : Disk) : FileTree × Option Cause :=
  match tree.fill temporary content disk with
  | (tree, some e) => (tree, some (.file e))
  | (tree, none) =>
    match tree.moveFile temporary.path path disk with
    | .ok tree => (tree, none)
    | .error fault => (tree, some (.rename temporary.path path fault))

/-- Write the JSON text of a report to a path, making the directories it needs. The tree after it,
and why it failed. -/
def writeFile (tree : FileTree) (path : String) (report : LineSieve.Report)
    (disk : Disk := .sound) : FileTree × Option Fault :=
  let directory := String.ofList (Path.directory path.toList)
  match tree.makeDirectories directory disk with
  | (tree, some e) => (tree, some (.within "create output directory" (.ofFile e)))
  | (tree, none) =>
    match tree.createTemporary directory (temporaryFront path) disk with
    | .error e => (tree, some (.within "create temp report" (.ofFile e)))
    | .ok (tree, temporary) =>
      let (tree, failure) := install tree temporary path (Text.encode report.document) disk
      -- Nothing is there any more if the file was moved. Nobody asks whether this succeeds.
      (tree.discard temporary.path disk,
        failure.map fun cause => .within "write output file" (.cause cause))

end LineSieve.Report
