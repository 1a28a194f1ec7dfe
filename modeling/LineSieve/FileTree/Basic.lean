import LineSieve.FileTree.Disk
import LineSieve.FileTree.Listing
import LineSieve.Path

/- A file tree and the operations of a file system on it. Paths are resolved name by name: a double
   dot leaves the directory that is there, and links are followed up to a bound. -/
namespace LineSieve

/-- All files, from the top, and the directory that paths without a leading slash start from. -/
structure FileTree where
  top : Listing
  origin : List String

/-- Where a path leads: to a node, or to a name that is free in an existing directory. -/
inductive Place where
  | found (at' : List String) (node : Node)
  | free (parent : List String) (name : String) (slash : Bool)

namespace FileTree

def maxLinks : Nat := 40

def maxNameBytes : Nat := 255

def names (path : String) : List String := (Path.parts path.toList).map String.ofList

def isRooted (path : String) : Bool := Path.isRooted path.toList

/-- Follow the names `todo` from the place `here`. The link at the end of a path is followed only if
`follow` says so. -/
def resolveFrom (top : Listing) (follow : Bool) (links : Nat) (here todo : List String) :
    Except FileFault Place :=
  match todo with
  | [] =>
    match top.at? here with
    | some node => .ok (.found here node)
    | none => .error .notFound
  | name :: rest =>
    match top.at? here with
    | some (.directory entries) =>
      if name = "" || name = "." then resolveFrom top follow links here rest
      else if name = ".." then resolveFrom top follow links here.dropLast rest
      else if maxNameBytes < name.utf8ByteSize then .error .nameTooLong
      else
        match entries.find? name with
        | none =>
          if rest.all (· = "") then .ok (.free here name (!rest.isEmpty)) else .error .notFound
        | some (.link target) =>
          if rest.isEmpty && !follow then .ok (.found (here ++ [name]) (.link target))
          else if target = "" then .error .notFound
          else
            match links with
            | 0 => .error .tooManyLinks
            | links + 1 =>
              resolveFrom top follow links (if isRooted target then [] else here)
                (names target ++ rest)
        | some _ => resolveFrom top follow links (here ++ [name]) rest
    | _ => .error .notDirectory
termination_by (links, todo.length)

def resolve (tree : FileTree) (follow : Bool) (path : String) : Except FileFault Place :=
  if path = "" then .error .notFound
  else
    resolveFrom tree.top follow maxLinks (if isRooted path then [] else tree.origin) (names path)

def node (tree : FileTree) (follow : Bool) (operation path : String) : Except FileError Node :=
  match tree.resolve follow path with
  | .ok (.found _ node) => .ok node
  | .ok (.free ..) => .error ⟨operation, path, .notFound⟩
  | .error fault => .error ⟨operation, path, fault⟩

def stat (tree : FileTree) (path : String) : Except FileError Node := tree.node true "stat" path

def linkStat (tree : FileTree) (path : String) : Except FileError Node :=
  tree.node false "lstat" path

def readFile (tree : FileTree) (path : String) : Except FileError ByteArray :=
  match tree.node true "open" path with
  | .ok (.file content) => .ok content
  | .ok _ => .error ⟨"read", path, .isDirectory⟩
  | .error e => .error e

def readDirectory (tree : FileTree) (path : String) : Except FileError Listing :=
  match tree.node true "open" path with
  | .ok (.directory entries) => .ok entries
  | .ok _ => .error ⟨"open", path, .notDirectory⟩
  | .error e => .error e

def writeFile (tree : FileTree) (path : String) (content : ByteArray) :
    Except FileError FileTree :=
  match tree.resolve true path with
  | .ok (.found place (.file _)) =>
    .ok { tree with top := tree.top.putAt place (.file content) }
  | .ok (.free parent name false) =>
    .ok { tree with top := tree.top.putAt (parent ++ [name]) (.file content) }
  | .ok _ => .error ⟨"open", path, .isDirectory⟩
  | .error fault => .error ⟨"open", path, fault⟩

def makeDirectory (tree : FileTree) (path : String) (disk : Disk := .sound) :
    Except FileError FileTree :=
  match tree.resolve false path with
  | .ok (.free parent name _) =>
    match disk.noDirectory path with
    | some fault => .error ⟨"mkdir", path, fault⟩
    | none => .ok { tree with top := tree.top.putAt (parent ++ [name]) (.directory .nil) }
  | .ok (.found ..) => .error ⟨"mkdir", path, .alreadyExists⟩
  | .error .notDirectory =>
    -- A trailing slash behind a file still names the file.
    match tree.resolve false (String.ofList (Text.dropLast? '/' path.toList)) with
    | .ok (.found ..) => .error ⟨"mkdir", path, .alreadyExists⟩
    | _ => .error ⟨"mkdir", path, .notDirectory⟩
  | .error fault => .error ⟨"mkdir", path, fault⟩

def parentPath (path : String) : String :=
  String.ofList (Path.throughSlash ((path.toList.reverse.dropWhile (· == '/')).reverse))

/-- Make a directory and all that are missing above it; the tree after it, and why it stopped. -/
def makeDirectories (tree : FileTree) (path : String) (disk : Disk := .sound) :
    FileTree × Option FileError :=
  match tree.stat path with
  | .ok (.directory _) => (tree, none)
  | .ok _ => (tree, some ⟨"mkdir", path, .notDirectory⟩)
  | .error _ =>
    let parent := parentPath path
    let (tree, failure) :=
      if _h : parent.length < path.length ∧ parent ≠ "" then tree.makeDirectories parent disk
      else (tree, none)
    match failure with
    | some e => (tree, some e)
    | none =>
      match tree.makeDirectory path disk with
      | .ok tree => (tree, none)
      | .error e =>
        match tree.linkStat path with
        | .ok (.directory _) => (tree, none)
        | _ => (tree, some e)
termination_by path.length
decreasing_by exact _h.1

def remove (tree : FileTree) (path : String) : FileTree :=
  match tree.resolve false path with
  | .ok (.found place _) => { tree with top := tree.top.eraseAt place }
  | _ => tree

end FileTree

end LineSieve
