/- Why an operation on files fails. A file tree does not show everything that decides it: the disk can
   refuse what the tree allows, for want of space or rights. What is refused changes nothing, but that
   a write may stop on the way. -/
namespace LineSieve

inductive FileFault where
  | notFound
  | notDirectory
  | isDirectory
  | alreadyExists
  | tooManyLinks
  | nameTooLong
  | separatorInPattern
  | refused (reason : String)
  deriving DecidableEq, Repr

def FileFault.text : FileFault → String
  | .notFound => "no such file or directory"
  | .notDirectory => "not a directory"
  | .isDirectory => "is a directory"
  | .alreadyExists => "file exists"
  | .tooManyLinks => "too many levels of symbolic links"
  | .nameTooLong => "file name too long"
  | .separatorInPattern => "pattern contains path separator"
  | .refused reason => reason

structure FileError where
  operation : String
  path : String
  fault : FileFault
  deriving DecidableEq, Repr

def FileError.message (e : FileError) : String :=
  e.operation ++ " " ++ e.path ++ ": " ++ e.fault.text

structure Disk where
  /-- The numbers drawn for the names of temporary files. -/
  draws : Nat → Nat := id
  noDirectory : String → Option FileFault := fun _ => none
  noFile : String → Option FileFault := fun _ => none
  /-- The number of bytes after which a write stops. -/
  stops : Option (Nat × FileFault) := none
  noMode : Option FileFault := none
  noClose : Option FileFault := none
  noRename : Option FileFault := none
  noRemove : Option FileFault := none

def Disk.sound : Disk := {}

end LineSieve
