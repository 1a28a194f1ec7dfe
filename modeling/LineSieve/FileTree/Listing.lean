/- The entries of a directory tree. A listing holds the entries of one directory, each with its
   name; the entries of a subdirectory are a listing of their own. Links keep the text they point
   to. -/
namespace LineSieve

inductive Listing where
  | nil
  | file (name : String) (content : ByteArray) (rest : Listing)
  | link (name target : String) (rest : Listing)
  | directory (name : String) (entries rest : Listing)

/-- What a name in a directory stands for. -/
inductive Node where
  | file (content : ByteArray)
  | link (target : String)
  | directory (entries : Listing)

namespace Node

def isDirectory : Node → Bool
  | .directory _ => true
  | _ => false

def cons (name : String) : Node → Listing → Listing
  | .file content, rest => .file name content rest
  | .link target, rest => .link name target rest
  | .directory entries, rest => .directory name entries rest

end Node

namespace Listing

def find? (name : String) : Listing → Option Node
  | .nil => none
  | .file n content rest => if n = name then some (.file content) else rest.find? name
  | .link n target rest => if n = name then some (.link target) else rest.find? name
  | .directory n entries rest => if n = name then some (.directory entries) else rest.find? name

/-- Give `name` a node; a new name goes before the first greater one, so that names stay in
order. -/
def put (name : String) (node : Node) : Listing → Listing
  | .nil => node.cons name .nil
  | .file n content rest =>
    if n = name then node.cons name rest
    else if name < n then node.cons name (.file n content rest)
    else .file n content (rest.put name node)
  | .link n target rest =>
    if n = name then node.cons name rest
    else if name < n then node.cons name (.link n target rest)
    else .link n target (rest.put name node)
  | .directory n entries rest =>
    if n = name then node.cons name rest
    else if name < n then node.cons name (.directory n entries rest)
    else .directory n entries (rest.put name node)

def erase (name : String) : Listing → Listing
  | .nil => .nil
  | .file n content rest =>
    if n = name then rest.erase name else .file n content (rest.erase name)
  | .link n target rest =>
    if n = name then rest.erase name else .link n target (rest.erase name)
  | .directory n entries rest =>
    if n = name then rest.erase name else .directory n entries (rest.erase name)

/-- The node at a place, given by the names on the way from the top; links are not followed. -/
def at? (top : Listing) : List String → Option Node
  | [] => some (.directory top)
  | [name] => top.find? name
  | name :: rest =>
    match top.find? name with
    | some (.directory entries) => entries.at? rest
    | _ => none

/-- Put a node at a place; nothing happens if a directory on the way is missing. -/
def putAt (top : Listing) : List String → Node → Listing
  | [], _ => top
  | [name], node => top.put name node
  | name :: rest, node =>
    match top.find? name with
    | some (.directory entries) => top.put name (.directory (entries.putAt rest node))
    | _ => top

def eraseAt (top : Listing) : List String → Listing
  | [] => top
  | [name] => top.erase name
  | name :: rest =>
    match top.find? name with
    | some (.directory entries) => top.put name (.directory (entries.eraseAt rest))
    | _ => top

def files (above : List String) : Listing → List (List String × ByteArray)
  | .nil => []
  | .file name content rest => (above ++ [name], content) :: rest.files above
  | .link _ _ rest => rest.files above
  | .directory name entries rest => entries.files (above ++ [name]) ++ rest.files above

end Listing

end LineSieve
