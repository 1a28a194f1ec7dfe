import LineSieve.Text.Search

/- Slash-separated paths as texts. Everything here is about the letters of a path; what a path leads
   to is a matter of the file tree. -/
namespace LineSieve.Path

def parts (path : List Char) : List (List Char) := Text.splitOn '/' path

def isRooted (path : List Char) : Bool := path.head? == some '/'

/-- Put one component on a stack of components, innermost first. Empty and single-dot components
vanish; a double dot takes the component above it away, or stays if there is none and the path has
no root. -/
def pushPart (rooted : Bool) (stack : List (List Char)) (part : List Char) : List (List Char) :=
  if part.isEmpty || part == ['.'] then stack
  else if part == ['.', '.'] then
    match stack with
    | [] => if rooted then [] else [part]
    | top :: below => if top == ['.', '.'] then part :: stack else below
  else part :: stack

/-- The shortest path of the same meaning on a tree without links. -/
def clean (path : List Char) : List Char :=
  let rooted := isRooted path
  let kept := ((parts path).foldl (pushPart rooted) []).reverse
  let body := Text.join ['/'] kept
  if rooted then '/' :: body
  else if body.isEmpty then ['.']
  else body

def afterSlash (path : List Char) : List Char :=
  (path.reverse.takeWhile (· != '/')).reverse

def throughSlash (path : List Char) : List Char :=
  (path.reverse.dropWhile (· != '/')).reverse

/-- The last component; trailing slashes do not count. -/
def base (path : List Char) : List Char :=
  if path.isEmpty then ['.']
  else
    let body := (path.reverse.dropWhile (· == '/')).reverse
    if body.isEmpty then ['/'] else afterSlash body

def directory (path : List Char) : List Char := clean (throughSlash path)

/-- The text from the last dot of the last component on, or nothing. -/
def extension (path : List Char) : List Char :=
  let name := afterSlash path
  let tail := (name.reverse.takeWhile (· != '.')).reverse
  if tail.length < name.length then '.' :: tail else []

/-- Join two paths and clean the result; an empty one is left out. -/
def join (first second : List Char) : List Char :=
  if first.isEmpty && second.isEmpty then []
  else if first.isEmpty then clean second
  else if second.isEmpty then clean first
  else clean (first ++ '/' :: second)

/-- The rooted form of a path that is taken from the directory `origin`. -/
def absolute (origin path : List Char) : List Char :=
  if isRooted path then clean path else join origin path

end LineSieve.Path
