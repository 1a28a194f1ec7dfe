import LineSieve.Path
import LineSieve.Summary

/- Folding file summaries into folder totals and a grand total. -/
namespace LineSieve

def rootFolder : String := "root"

/-- The folder of a path: its parent directory, with backslashes read as slashes. -/
def folderOf (path : String) : String :=
  let slashed := path.toList.map fun c => if c == '\\' then '/' else c
  let folder := Path.directory slashed
  if folder == ['.'] || folder == ['/'] then rootFolder else String.ofList folder

def addToFolder (key : String) (counts : LineCounts) : List FolderTotals → List FolderTotals
  | [] => [⟨key, 1, counts⟩]
  | folder :: rest =>
    if folder.folder = key then ⟨key, folder.files + 1, folder.counts + counts⟩ :: rest
    else folder :: addToFolder key counts rest

def folderTotals (files : List FileSummary) : List FolderTotals :=
  files.foldl (fun folders file => addToFolder (folderOf file.path) file.counts folders) []

def grandTotal (files : List FileSummary) : GrandTotal :=
  files.foldl (fun total file => total.addFile file.counts) {}

def sortFolders (folders : List FolderTotals) : List FolderTotals :=
  folders.mergeSort fun a b => b.counts.total ≤ a.counts.total

def sortFiles (files : List FileSummary) : List FileSummary :=
  files.mergeSort fun a b => b.counts.total ≤ a.counts.total

def aggregate (files : List FileSummary) : List FolderTotals × GrandTotal :=
  (sortFolders (folderTotals files), grandTotal files)

end LineSieve
