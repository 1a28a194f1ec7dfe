import LineSieve.FileTree.Basic

/- Files that are written under a passing name and then moved to the name they are for. -/
namespace LineSieve

/-- A file that is open for writing. What is written goes to its place, whatever becomes of the
path it was opened by. -/
structure OpenFile where
  path : String
  place : List String

def Node.isFull : Node → Bool
  | .directory .nil => false
  | .directory _ => true
  | _ => false

namespace FileTree

def createFile (tree : FileTree) (path : String) (disk : Disk) :
    Except FileFault (FileTree × OpenFile) :=
  match tree.resolve false path with
  | .ok (.free parent name false) =>
    match disk.noFile path with
    | some fault => .error fault
    | none =>
      .ok ({ tree with top := tree.top.putAt (parent ++ [name]) (.file .empty) },
        ⟨path, parent ++ [name]⟩)
  | .ok (.free _ _ true) => .error .isDirectory
  | .ok (.found ..) => .error .alreadyExists
  | .error fault => .error fault

def maxDraws : Nat := 10000

def createDrawn (tree : FileTree) (front : String) (disk : Disk) (next : Nat) :
    Nat → Except FileError (FileTree × OpenFile)
  | 0 => .error ⟨"createtemp", front ++ "*", .alreadyExists⟩
  | tries + 1 =>
    let path := front ++ toString (disk.draws next)
    match tree.createFile path disk with
    | .ok made => .ok made
    | .error .alreadyExists => tree.createDrawn front disk (next + 1) tries
    | .error fault => .error ⟨"open", path, fault⟩

def createTemporary (tree : FileTree) (directory front : String) (disk : Disk) :
    Except FileError (FileTree × OpenFile) :=
  if front.toList.contains '/' then .error ⟨"createtemp", front ++ "*", .separatorInPattern⟩
  else
    let above := if directory.toList.getLast? = some '/' then directory else directory ++ "/"
    tree.createDrawn (above ++ front) disk 0 maxDraws

def fill (tree : FileTree) (file : OpenFile) (content : ByteArray) (disk : Disk) :
    FileTree × Option FileError :=
  let stored (bytes : ByteArray) : FileTree :=
    { tree with top := tree.top.putAt file.place (.file bytes) }
  match disk.stops with
  | some (size, fault) => (stored (content.extract 0 size), some ⟨"write", file.path, fault⟩)
  | none =>
    (stored content, match disk.noMode with
      | some fault => some ⟨"chmod", file.path, fault⟩
      | none => disk.noClose.map (⟨"close", file.path, ·⟩))

def transfer (tree : FileTree) (place there : List String) (node : Node) (disk : Disk) :
    Except FileFault FileTree :=
  match disk.noRename with
  | some fault => .error fault
  | none => .ok { tree with top := (tree.top.eraseAt place).putAt there node }

/-- Give the file or link at `source` the name `target`. A file or link that has the name gives way,
a directory does not. -/
def moveFile (tree : FileTree) (source target : String) (disk : Disk) :
    Except FileFault FileTree :=
  match tree.resolve false source with
  | .ok (.found _ (.directory _)) => .error .isDirectory
  | .ok (.found place node) =>
    match tree.resolve false target with
    | .ok (.found _ (.directory _)) => .error .alreadyExists
    | .ok (.found there _) => tree.transfer place there node disk
    | .ok (.free parent name false) => tree.transfer place (parent ++ [name]) node disk
    | .ok (.free _ _ true) => .error .notDirectory
    | .error fault => .error fault
  | .ok (.free ..) => .error .notFound
  | .error fault => .error fault

/-- Remove the file, link or empty directory that a path leads to. -/
def unlink (tree : FileTree) (path : String) (disk : Disk) : Except FileFault FileTree :=
  match tree.resolve false path with
  | .ok (.found place node) =>
    if node.isFull then .error (.refused "directory not empty")
    else
      match disk.noRemove with
      | some fault => .error fault
      | none => .ok { tree with top := tree.top.eraseAt place }
  | .ok (.free ..) => .error .notFound
  | .error fault => .error fault

def discard (tree : FileTree) (path : String) (disk : Disk) : FileTree :=
  (tree.unlink path disk).toOption.getD tree

end FileTree

end LineSieve
