import LineSieve.Dialect
import LineSieve.Fault
import LineSieve.FileTree.Basic
import LineSieve.Selection.Glob
import LineSieve.Selection.Ignore
import LineSieve.Text.Quoted

/- Selecting files under a root. The walk goes through the directories in the order of their names
   and offers every selected file to a visitor, which may end it. -/
namespace LineSieve

/-- What matchers answer: whether the lines of an ignore list, each of them a sequence of bytes,
ignore a path, and whether a glob pattern matches a path. -/
structure Matching where
  ignores : List (List UInt8) → List Char → Bool
  glob : List Char → List Char → Except Glob.Malformed Bool

namespace Matching

def standard : Matching where
  ignores lines :=
    Ignore.ignores (Ignore.rules (lines.filterMap fun bytes => Text.decode? ⟨bytes.toArray⟩))
  glob := Glob.matches

@[inline]
def leavesOut (matching : Matching) (lines : List (List UInt8)) : List Char → Bool :=
  if lines.isEmpty then fun _ => false else matching.ignores lines

end Matching

/-- What to select. With extensions, they decide instead of the dialect. -/
structure Selection where
  dialect : String := ""
  excludes : List String := []
  includes : List String := []
  excludeTests : Bool := false
  useIgnoreFile : Bool := false
  extensions : List String := []
  matching : Matching := .standard

/-- A selected file: the path to open it by, the path to show, and its dialect if it has one. -/
structure Target where
  path : String
  display : String
  dialect : Option Dialect
  deriving DecidableEq, Repr

def Target.dialectName (target : Target) : String := (target.dialect.map (·.name)).getD ""

namespace Selection

def ignoredDirectories : List String :=
  [".git", ".hg", ".svn", ".idea", ".vscode", "node_modules", "vendor", "__pycache__",
    ".luarocks", "lua_modules"]

def testDirectories : List String := ["test", "tests", "spec", "specs"]

def testMarks : List String := ["test_", "_test", "spec_", "_spec"]

def ignoreFileName : String := ".gitignore"

def isTestFile (name : String) : Bool :=
  let chars := name.toList
  let stem := Text.lower (chars.take (chars.length - (Path.extension chars).length))
  testMarks.any fun mark => Text.contains mark.toList stem

def hasExtension (path : String) (extensions : List String) : Bool :=
  let extension := Path.extension path.toList
  extensions.any fun item => Text.equalFold item.toList extension

def target? (selection : Selection) (path display : String) : Option Target :=
  let dialect := Dialect.forFile? path
  if selection.extensions.isEmpty then
    match dialect with
    | none => none
    | some found =>
      if selection.dialect = "" || Text.equalFoldString found.name selection.dialect then
        some ⟨path, display, dialect⟩
      else none
  else if hasExtension path selection.extensions then some ⟨path, display, dialect⟩
  else none

/-- Whether some include pattern matches; without any, everything is included. -/
def included (selection : Selection) (path : List Char) : Bool :=
  selection.includes.isEmpty ||
    selection.includes.any fun pattern =>
      (selection.matching.glob pattern.toList path).toOption == some true

/-- The lines of the ignore file under `root` and of the excludes. -/
def ignoreLines (selection : Selection) (tree : FileTree) (root : String) :
    Except Fault (List (List UInt8)) :=
  let path := String.ofList (Path.join root.toList ignoreFileName.toList)
  let fromFile : Except Fault (List (List UInt8)) :=
    if selection.useIgnoreFile then
      match tree.readFile path with
      | .ok content => .ok (Text.splitOn 10 content.toList)
      | .error e =>
        if e.fault = .notFound then .ok []
        else .error (.within "read .gitignore" (.ofFile e))
    else .ok []
  fromFile.map fun lines =>
    lines ++ ((selection.excludes.map String.toList).filter (!Text.allBlank ·)).map Text.utf8

/-- The first include pattern that is malformed at its start. -/
def checkIncludes (selection : Selection) : Except Fault Unit :=
  let malformed (pattern : String) : Bool :=
    (selection.matching.glob pattern.toList []).toOption.isNone
  match selection.includes.find? malformed with
  | none => .ok ()
  | some pattern =>
    .error (.within ("invalid include pattern " ++ Text.quotedString pattern)
      (.cause .malformedGlob))

/-- Whether a directory is left out with all that is in it. -/
def skips (selection : Selection) (ignored : List Char → Bool) (name : String) (path : List Char) :
    Bool :=
  ignoredDirectories.contains name ||
    (selection.excludeTests && testDirectories.contains (Text.lowerString name)) ||
    ignored (path ++ ['/'])

def pick? (selection : Selection) (ignored : List Char → Bool) (root : List Char) (name : String)
    (path : List Char) : Option Target :=
  if ignored path then none
  else if selection.excludeTests && isTestFile name then none
  else if !selection.included path then none
  else selection.target? (String.ofList (Path.join root path)) (String.ofList path)

end Selection

/-- The path of `name` in the directory `above`, relative to the root. -/
def childPath (above : List Char) (name : String) : List Char :=
  if above.isEmpty then name.toList else above ++ '/' :: name.toList

abbrev Visited (σ : Type) := σ × Option Fault

abbrev Visitor (σ : Type) := σ → Target → Visited σ

def Listing.visit {σ : Type} (skips : String → List Char → Bool)
    (pick? : String → List Char → Option Target) (visitor : Visitor σ) (above : List Char) :
    Listing → σ → Visited σ
  | .nil, gathered => (gathered, none)
  | .file name _ rest, gathered =>
    match offer name gathered with
    | (gathered, none) => rest.visit skips pick? visitor above gathered
    | ended => ended
  | .link name _ rest, gathered =>
    match offer name gathered with
    | (gathered, none) => rest.visit skips pick? visitor above gathered
    | ended => ended
  | .directory name entries rest, gathered =>
    let path := childPath above name
    let inside :=
      if skips name path then (gathered, none)
      else entries.visit skips pick? visitor path gathered
    match inside with
    | (gathered, none) => rest.visit skips pick? visitor above gathered
    | ended => ended
where
  offer (name : String) (gathered : σ) : Visited σ :=
    match pick? name (childPath above name) with
    | some target => visitor gathered target
    | none => (gathered, none)

/-- Walk through the listing of a root. Its directories are opened by their paths, which lead out of
the root if that is written with a double dot behind a link. -/
def Listing.visitRoot {σ : Type} (opens : String → Except Fault Listing)
    (skips : String → List Char → Bool) (pick? : String → List Char → Option Target)
    (visitor : Visitor σ) : Listing → σ → Visited σ
  | .nil, gathered => (gathered, none)
  | .file name _ rest, gathered =>
    match visit.offer pick? visitor [] name gathered with
    | (gathered, none) => rest.visitRoot opens skips pick? visitor gathered
    | ended => ended
  | .link name _ rest, gathered =>
    match visit.offer pick? visitor [] name gathered with
    | (gathered, none) => rest.visitRoot opens skips pick? visitor gathered
    | ended => ended
  | .directory name _ rest, gathered =>
    let path := childPath [] name
    let inside :=
      if skips name path then (gathered, none)
      else
        match opens name with
        | .ok entries => entries.visit skips pick? visitor path gathered
        | .error fault => (gathered, some fault)
    match inside with
    | (gathered, none) => rest.visitRoot opens skips pick? visitor gathered
    | ended => ended

namespace FileTree

def openIn (tree : FileTree) (root name : String) : Except Fault Listing :=
  (tree.readDirectory (String.ofList (Path.join root.toList name.toList))).mapError .ofFile

/-- Offer the files selected under `root` to a visitor. A root that is a file is offered itself. -/
def walk {σ : Type} (tree : FileTree) (root : String) (selection : Selection)
    (visitor : Visitor σ) (start : σ) : Visited σ :=
  match tree.stat root with
  | .error e => (start, some (.within "stat path" (.ofFile e)))
  | .ok (.directory _) =>
    match selection.ignoreLines tree root, selection.checkIncludes with
    | .error fault, _ => (start, some fault)
    | .ok _, .error fault => (start, some fault)
    | .ok lines, .ok () =>
      let ignored := selection.matching.leavesOut lines
      -- A root that is a link itself is not entered.
      match tree.linkStat root with
      | .ok (.directory entries) =>
        entries.visitRoot (tree.openIn root) (selection.skips ignored)
          (selection.pick? ignored root.toList) visitor start
      | _ => (start, none)
  | .ok _ =>
    let name := String.ofList (Path.base root.toList)
    match selection.target? root name with
    | some target => visitor start target
    | none => (start, some (.detailed (.cause .unsupportedFile) name))

def select (tree : FileTree) (root : String) (selection : Selection) : Visited (List Target) :=
  let (reversed, fault) :=
    tree.walk root selection (fun gathered target => (target :: gathered, none)) []
  (reversed.reverse, fault)

end FileTree

end LineSieve
